import Provision.Text.CharSet

/-!
# Scripts

Every character belongs to one script. The table lists the first code point of
each run of characters of the same script.
-/

set_option autoImplicit false
set_option maxRecDepth 100000

namespace Provision.Script

def names : List (String × String) := [
  ("Adlam", "Adlm"), ("Ahom", "Ahom"), ("Anatolian_Hieroglyphs", "Hluw"), ("Arabic", "Arab"),
  ("Armenian", "Armn"), ("Avestan", "Avst"), ("Balinese", "Bali"), ("Bamum", "Bamu"),
  ("Bassa_Vah", "Bass"), ("Batak", "Batk"), ("Bengali", "Beng"), ("Beria_Erfe", "Berf"),
  ("Bhaiksuki", "Bhks"), ("Bopomofo", "Bopo"), ("Brahmi", "Brah"), ("Braille", "Brai"),
  ("Buginese", "Bugi"), ("Buhid", "Buhd"), ("Canadian_Aboriginal", "Cans"), ("Carian", "Cari"),
  ("Caucasian_Albanian", "Aghb"), ("Chakma", "Cakm"), ("Cham", "Cham"), ("Cherokee", "Cher"),
  ("Chorasmian", "Chrs"), ("Common", "Zyyy"), ("Coptic", "Copt"), ("Cuneiform", "Xsux"),
  ("Cypriot", "Cprt"), ("Cypro_Minoan", "Cpmn"), ("Cyrillic", "Cyrl"), ("Deseret", "Dsrt"),
  ("Devanagari", "Deva"), ("Dives_Akuru", "Diak"), ("Dogra", "Dogr"), ("Duployan", "Dupl"),
  ("Egyptian_Hieroglyphs", "Egyp"), ("Elbasan", "Elba"), ("Elymaic", "Elym"),
  ("Ethiopic", "Ethi"), ("Garay", "Gara"), ("Georgian", "Geor"), ("Glagolitic", "Glag"),
  ("Gothic", "Goth"), ("Grantha", "Gran"), ("Greek", "Grek"), ("Gujarati", "Gujr"),
  ("Gunjala_Gondi", "Gong"), ("Gurmukhi", "Guru"), ("Gurung_Khema", "Gukh"), ("Han", "Hani"),
  ("Hangul", "Hang"), ("Hanifi_Rohingya", "Rohg"), ("Hanunoo", "Hano"), ("Hatran", "Hatr"),
  ("Hebrew", "Hebr"), ("Hiragana", "Hira"), ("Imperial_Aramaic", "Armi"), ("Inherited", "Zinh"),
  ("Inscriptional_Pahlavi", "Phli"), ("Inscriptional_Parthian", "Prti"), ("Javanese", "Java"),
  ("Kaithi", "Kthi"), ("Kannada", "Knda"), ("Katakana", "Kana"), ("Kawi", "Kawi"),
  ("Kayah_Li", "Kali"), ("Kharoshthi", "Khar"), ("Khitan_Small_Script", "Kits"),
  ("Khmer", "Khmr"), ("Khojki", "Khoj"), ("Khudawadi", "Sind"), ("Kirat_Rai", "Krai"),
  ("Lao", "Laoo"), ("Latin", "Latn"), ("Lepcha", "Lepc"), ("Limbu", "Limb"), ("Linear_A", "Lina"),
  ("Linear_B", "Linb"), ("Lisu", "Lisu"), ("Lycian", "Lyci"), ("Lydian", "Lydi"),
  ("Mahajani", "Mahj"), ("Makasar", "Maka"), ("Malayalam", "Mlym"), ("Mandaic", "Mand"),
  ("Manichaean", "Mani"), ("Marchen", "Marc"), ("Masaram_Gondi", "Gonm"), ("Medefaidrin", "Medf"),
  ("Meetei_Mayek", "Mtei"), ("Mende_Kikakui", "Mend"), ("Meroitic_Cursive", "Merc"),
  ("Meroitic_Hieroglyphs", "Mero"), ("Miao", "Plrd"), ("Modi", "Modi"), ("Mongolian", "Mong"),
  ("Mro", "Mroo"), ("Multani", "Mult"), ("Myanmar", "Mymr"), ("Nabataean", "Nbat"),
  ("Nag_Mundari", "Nagm"), ("Nandinagari", "Nand"), ("New_Tai_Lue", "Talu"), ("Newa", "Newa"),
  ("Nko", "Nkoo"), ("Nushu", "Nshu"), ("Nyiakeng_Puachue_Hmong", "Hmnp"), ("Ogham", "Ogam"),
  ("Ol_Chiki", "Olck"), ("Ol_Onal", "Onao"), ("Old_Hungarian", "Hung"), ("Old_Italic", "Ital"),
  ("Old_North_Arabian", "Narb"), ("Old_Permic", "Perm"), ("Old_Persian", "Xpeo"),
  ("Old_Sogdian", "Sogo"), ("Old_South_Arabian", "Sarb"), ("Old_Turkic", "Orkh"),
  ("Old_Uyghur", "Ougr"), ("Oriya", "Orya"), ("Osage", "Osge"), ("Osmanya", "Osma"),
  ("Pahawh_Hmong", "Hmng"), ("Palmyrene", "Palm"), ("Pau_Cin_Hau", "Pauc"), ("Phags_Pa", "Phag"),
  ("Phoenician", "Phnx"), ("Psalter_Pahlavi", "Phlp"), ("Rejang", "Rjng"), ("Runic", "Runr"),
  ("Samaritan", "Samr"), ("Saurashtra", "Saur"), ("Sharada", "Shrd"), ("Shavian", "Shaw"),
  ("Siddham", "Sidd"), ("Sidetic", "Sidt"), ("SignWriting", "Sgnw"), ("Sinhala", "Sinh"),
  ("Sogdian", "Sogd"), ("Sora_Sompeng", "Sora"), ("Soyombo", "Soyo"), ("Sundanese", "Sund"),
  ("Sunuwar", "Sunu"), ("Syloti_Nagri", "Sylo"), ("Syriac", "Syrc"), ("Tagalog", "Tglg"),
  ("Tagbanwa", "Tagb"), ("Tai_Le", "Tale"), ("Tai_Tham", "Lana"), ("Tai_Viet", "Tavt"),
  ("Tai_Yo", "Tayo"), ("Takri", "Takr"), ("Tamil", "Taml"), ("Tangsa", "Tnsa"),
  ("Tangut", "Tang"), ("Telugu", "Telu"), ("Thaana", "Thaa"), ("Thai", "Thai"),
  ("Tibetan", "Tibt"), ("Tifinagh", "Tfng"), ("Tirhuta", "Tirh"), ("Todhri", "Todr"),
  ("Tolong_Siki", "Tols"), ("Toto", "Toto"), ("Tulu_Tigalari", "Tutg"), ("Ugaritic", "Ugar"),
  ("Vai", "Vaii"), ("Vithkuqi", "Vith"), ("Wancho", "Wcho"), ("Warang_Citi", "Wara"),
  ("Yezidi", "Yezi"), ("Yi", "Yiii"), ("Zanabazar_Square", "Zanb"), ("Unknown", "Zzzz")]

def runs : List (Nat × String) := [
  (0x0, "Common"), (0x41, "Latin"), (0x5b, "Common"), (0x61, "Latin"), (0x7b, "Common"),
  (0xaa, "Latin"), (0xab, "Common"), (0xba, "Latin"), (0xbb, "Common"), (0xc0, "Latin"),
  (0xd7, "Common"), (0xd8, "Latin"), (0xf7, "Common"), (0xf8, "Latin"), (0x2b9, "Common"),
  (0x2e0, "Latin"), (0x2e5, "Common"), (0x2ea, "Bopomofo"), (0x2ec, "Common"),
  (0x300, "Inherited"), (0x370, "Greek"), (0x374, "Common"), (0x375, "Greek"), (0x378, "Unknown"),
  (0x37a, "Greek"), (0x37e, "Common"), (0x37f, "Greek"), (0x380, "Unknown"), (0x384, "Greek"),
  (0x385, "Common"), (0x386, "Greek"), (0x387, "Common"), (0x388, "Greek"), (0x38b, "Unknown"),
  (0x38c, "Greek"), (0x38d, "Unknown"), (0x38e, "Greek"), (0x3a2, "Unknown"), (0x3a3, "Greek"),
  (0x3e2, "Coptic"), (0x3f0, "Greek"), (0x400, "Cyrillic"), (0x485, "Inherited"),
  (0x487, "Cyrillic"), (0x530, "Unknown"), (0x531, "Armenian"), (0x557, "Unknown"),
  (0x559, "Armenian"), (0x58b, "Unknown"), (0x58d, "Armenian"), (0x590, "Unknown"),
  (0x591, "Hebrew"), (0x5c8, "Unknown"), (0x5d0, "Hebrew"), (0x5eb, "Unknown"), (0x5ef, "Hebrew"),
  (0x5f5, "Unknown"), (0x600, "Arabic"), (0x605, "Common"), (0x606, "Arabic"), (0x60c, "Common"),
  (0x60d, "Arabic"), (0x61b, "Common"), (0x61c, "Arabic"), (0x61f, "Common"), (0x620, "Arabic"),
  (0x640, "Common"), (0x641, "Arabic"), (0x64b, "Inherited"), (0x656, "Arabic"),
  (0x670, "Inherited"), (0x671, "Arabic"), (0x6dd, "Common"), (0x6de, "Arabic"),
  (0x700, "Syriac"), (0x70e, "Unknown"), (0x70f, "Syriac"), (0x74b, "Unknown"), (0x74d, "Syriac"),
  (0x750, "Arabic"), (0x780, "Thaana"), (0x7b2, "Unknown"), (0x7c0, "Nko"), (0x7fb, "Unknown"),
  (0x7fd, "Nko"), (0x800, "Samaritan"), (0x82e, "Unknown"), (0x830, "Samaritan"),
  (0x83f, "Unknown"), (0x840, "Mandaic"), (0x85c, "Unknown"), (0x85e, "Mandaic"),
  (0x85f, "Unknown"), (0x860, "Syriac"), (0x86b, "Unknown"), (0x870, "Arabic"),
  (0x892, "Unknown"), (0x897, "Arabic"), (0x8e2, "Common"), (0x8e3, "Arabic"),
  (0x900, "Devanagari"), (0x951, "Inherited"), (0x955, "Devanagari"), (0x964, "Common"),
  (0x966, "Devanagari"), (0x980, "Bengali"), (0x984, "Unknown"), (0x985, "Bengali"),
  (0x98d, "Unknown"), (0x98f, "Bengali"), (0x991, "Unknown"), (0x993, "Bengali"),
  (0x9a9, "Unknown"), (0x9aa, "Bengali"), (0x9b1, "Unknown"), (0x9b2, "Bengali"),
  (0x9b3, "Unknown"), (0x9b6, "Bengali"), (0x9ba, "Unknown"), (0x9bc, "Bengali"),
  (0x9c5, "Unknown"), (0x9c7, "Bengali"), (0x9c9, "Unknown"), (0x9cb, "Bengali"),
  (0x9cf, "Unknown"), (0x9d7, "Bengali"), (0x9d8, "Unknown"), (0x9dc, "Bengali"),
  (0x9de, "Unknown"), (0x9df, "Bengali"), (0x9e4, "Unknown"), (0x9e6, "Bengali"),
  (0x9ff, "Unknown"), (0xa01, "Gurmukhi"), (0xa04, "Unknown"), (0xa05, "Gurmukhi"),
  (0xa0b, "Unknown"), (0xa0f, "Gurmukhi"), (0xa11, "Unknown"), (0xa13, "Gurmukhi"),
  (0xa29, "Unknown"), (0xa2a, "Gurmukhi"), (0xa31, "Unknown"), (0xa32, "Gurmukhi"),
  (0xa34, "Unknown"), (0xa35, "Gurmukhi"), (0xa37, "Unknown"), (0xa38, "Gurmukhi"),
  (0xa3a, "Unknown"), (0xa3c, "Gurmukhi"), (0xa3d, "Unknown"), (0xa3e, "Gurmukhi"),
  (0xa43, "Unknown"), (0xa47, "Gurmukhi"), (0xa49, "Unknown"), (0xa4b, "Gurmukhi"),
  (0xa4e, "Unknown"), (0xa51, "Gurmukhi"), (0xa52, "Unknown"), (0xa59, "Gurmukhi"),
  (0xa5d, "Unknown"), (0xa5e, "Gurmukhi"), (0xa5f, "Unknown"), (0xa66, "Gurmukhi"),
  (0xa77, "Unknown"), (0xa81, "Gujarati"), (0xa84, "Unknown"), (0xa85, "Gujarati"),
  (0xa8e, "Unknown"), (0xa8f, "Gujarati"), (0xa92, "Unknown"), (0xa93, "Gujarati"),
  (0xaa9, "Unknown"), (0xaaa, "Gujarati"), (0xab1, "Unknown"), (0xab2, "Gujarati"),
  (0xab4, "Unknown"), (0xab5, "Gujarati"), (0xaba, "Unknown"), (0xabc, "Gujarati"),
  (0xac6, "Unknown"), (0xac7, "Gujarati"), (0xaca, "Unknown"), (0xacb, "Gujarati"),
  (0xace, "Unknown"), (0xad0, "Gujarati"), (0xad1, "Unknown"), (0xae0, "Gujarati"),
  (0xae4, "Unknown"), (0xae6, "Gujarati"), (0xaf2, "Unknown"), (0xaf9, "Gujarati"),
  (0xb00, "Unknown"), (0xb01, "Oriya"), (0xb04, "Unknown"), (0xb05, "Oriya"), (0xb0d, "Unknown"),
  (0xb0f, "Oriya"), (0xb11, "Unknown"), (0xb13, "Oriya"), (0xb29, "Unknown"), (0xb2a, "Oriya"),
  (0xb31, "Unknown"), (0xb32, "Oriya"), (0xb34, "Unknown"), (0xb35, "Oriya"), (0xb3a, "Unknown"),
  (0xb3c, "Oriya"), (0xb45, "Unknown"), (0xb47, "Oriya"), (0xb49, "Unknown"), (0xb4b, "Oriya"),
  (0xb4e, "Unknown"), (0xb55, "Oriya"), (0xb58, "Unknown"), (0xb5c, "Oriya"), (0xb5e, "Unknown"),
  (0xb5f, "Oriya"), (0xb64, "Unknown"), (0xb66, "Oriya"), (0xb78, "Unknown"), (0xb82, "Tamil"),
  (0xb84, "Unknown"), (0xb85, "Tamil"), (0xb8b, "Unknown"), (0xb8e, "Tamil"), (0xb91, "Unknown"),
  (0xb92, "Tamil"), (0xb96, "Unknown"), (0xb99, "Tamil"), (0xb9b, "Unknown"), (0xb9c, "Tamil"),
  (0xb9d, "Unknown"), (0xb9e, "Tamil"), (0xba0, "Unknown"), (0xba3, "Tamil"), (0xba5, "Unknown"),
  (0xba8, "Tamil"), (0xbab, "Unknown"), (0xbae, "Tamil"), (0xbba, "Unknown"), (0xbbe, "Tamil"),
  (0xbc3, "Unknown"), (0xbc6, "Tamil"), (0xbc9, "Unknown"), (0xbca, "Tamil"), (0xbce, "Unknown"),
  (0xbd0, "Tamil"), (0xbd1, "Unknown"), (0xbd7, "Tamil"), (0xbd8, "Unknown"), (0xbe6, "Tamil"),
  (0xbfb, "Unknown"), (0xc00, "Telugu"), (0xc0d, "Unknown"), (0xc0e, "Telugu"),
  (0xc11, "Unknown"), (0xc12, "Telugu"), (0xc29, "Unknown"), (0xc2a, "Telugu"),
  (0xc3a, "Unknown"), (0xc3c, "Telugu"), (0xc45, "Unknown"), (0xc46, "Telugu"),
  (0xc49, "Unknown"), (0xc4a, "Telugu"), (0xc4e, "Unknown"), (0xc55, "Telugu"),
  (0xc57, "Unknown"), (0xc58, "Telugu"), (0xc5b, "Unknown"), (0xc5c, "Telugu"),
  (0xc5e, "Unknown"), (0xc60, "Telugu"), (0xc64, "Unknown"), (0xc66, "Telugu"),
  (0xc70, "Unknown"), (0xc77, "Telugu"), (0xc80, "Kannada"), (0xc8d, "Unknown"),
  (0xc8e, "Kannada"), (0xc91, "Unknown"), (0xc92, "Kannada"), (0xca9, "Unknown"),
  (0xcaa, "Kannada"), (0xcb4, "Unknown"), (0xcb5, "Kannada"), (0xcba, "Unknown"),
  (0xcbc, "Kannada"), (0xcc5, "Unknown"), (0xcc6, "Kannada"), (0xcc9, "Unknown"),
  (0xcca, "Kannada"), (0xcce, "Unknown"), (0xcd5, "Kannada"), (0xcd7, "Unknown"),
  (0xcdc, "Kannada"), (0xcdf, "Unknown"), (0xce0, "Kannada"), (0xce4, "Unknown"),
  (0xce6, "Kannada"), (0xcf0, "Unknown"), (0xcf1, "Kannada"), (0xcf4, "Unknown"),
  (0xd00, "Malayalam"), (0xd0d, "Unknown"), (0xd0e, "Malayalam"), (0xd11, "Unknown"),
  (0xd12, "Malayalam"), (0xd45, "Unknown"), (0xd46, "Malayalam"), (0xd49, "Unknown"),
  (0xd4a, "Malayalam"), (0xd50, "Unknown"), (0xd54, "Malayalam"), (0xd64, "Unknown"),
  (0xd66, "Malayalam"), (0xd80, "Unknown"), (0xd81, "Sinhala"), (0xd84, "Unknown"),
  (0xd85, "Sinhala"), (0xd97, "Unknown"), (0xd9a, "Sinhala"), (0xdb2, "Unknown"),
  (0xdb3, "Sinhala"), (0xdbc, "Unknown"), (0xdbd, "Sinhala"), (0xdbe, "Unknown"),
  (0xdc0, "Sinhala"), (0xdc7, "Unknown"), (0xdca, "Sinhala"), (0xdcb, "Unknown"),
  (0xdcf, "Sinhala"), (0xdd5, "Unknown"), (0xdd6, "Sinhala"), (0xdd7, "Unknown"),
  (0xdd8, "Sinhala"), (0xde0, "Unknown"), (0xde6, "Sinhala"), (0xdf0, "Unknown"),
  (0xdf2, "Sinhala"), (0xdf5, "Unknown"), (0xe01, "Thai"), (0xe3b, "Unknown"), (0xe3f, "Common"),
  (0xe40, "Thai"), (0xe5c, "Unknown"), (0xe81, "Lao"), (0xe83, "Unknown"), (0xe84, "Lao"),
  (0xe85, "Unknown"), (0xe86, "Lao"), (0xe8b, "Unknown"), (0xe8c, "Lao"), (0xea4, "Unknown"),
  (0xea5, "Lao"), (0xea6, "Unknown"), (0xea7, "Lao"), (0xebe, "Unknown"), (0xec0, "Lao"),
  (0xec5, "Unknown"), (0xec6, "Lao"), (0xec7, "Unknown"), (0xec8, "Lao"), (0xecf, "Unknown"),
  (0xed0, "Lao"), (0xeda, "Unknown"), (0xedc, "Lao"), (0xee0, "Unknown"), (0xf00, "Tibetan"),
  (0xf48, "Unknown"), (0xf49, "Tibetan"), (0xf6d, "Unknown"), (0xf71, "Tibetan"),
  (0xf98, "Unknown"), (0xf99, "Tibetan"), (0xfbd, "Unknown"), (0xfbe, "Tibetan"),
  (0xfcd, "Unknown"), (0xfce, "Tibetan"), (0xfd5, "Common"), (0xfd9, "Tibetan"),
  (0xfdb, "Unknown"), (0x1000, "Myanmar"), (0x10a0, "Georgian"), (0x10c6, "Unknown"),
  (0x10c7, "Georgian"), (0x10c8, "Unknown"), (0x10cd, "Georgian"), (0x10ce, "Unknown"),
  (0x10d0, "Georgian"), (0x10fb, "Common"), (0x10fc, "Georgian"), (0x1100, "Hangul"),
  (0x1200, "Ethiopic"), (0x1249, "Unknown"), (0x124a, "Ethiopic"), (0x124e, "Unknown"),
  (0x1250, "Ethiopic"), (0x1257, "Unknown"), (0x1258, "Ethiopic"), (0x1259, "Unknown"),
  (0x125a, "Ethiopic"), (0x125e, "Unknown"), (0x1260, "Ethiopic"), (0x1289, "Unknown"),
  (0x128a, "Ethiopic"), (0x128e, "Unknown"), (0x1290, "Ethiopic"), (0x12b1, "Unknown"),
  (0x12b2, "Ethiopic"), (0x12b6, "Unknown"), (0x12b8, "Ethiopic"), (0x12bf, "Unknown"),
  (0x12c0, "Ethiopic"), (0x12c1, "Unknown"), (0x12c2, "Ethiopic"), (0x12c6, "Unknown"),
  (0x12c8, "Ethiopic"), (0x12d7, "Unknown"), (0x12d8, "Ethiopic"), (0x1311, "Unknown"),
  (0x1312, "Ethiopic"), (0x1316, "Unknown"), (0x1318, "Ethiopic"), (0x135b, "Unknown"),
  (0x135d, "Ethiopic"), (0x137d, "Unknown"), (0x1380, "Ethiopic"), (0x139a, "Unknown"),
  (0x13a0, "Cherokee"), (0x13f6, "Unknown"), (0x13f8, "Cherokee"), (0x13fe, "Unknown"),
  (0x1400, "Canadian_Aboriginal"), (0x1680, "Ogham"), (0x169d, "Unknown"), (0x16a0, "Runic"),
  (0x16eb, "Common"), (0x16ee, "Runic"), (0x16f9, "Unknown"), (0x1700, "Tagalog"),
  (0x1716, "Unknown"), (0x171f, "Tagalog"), (0x1720, "Hanunoo"), (0x1735, "Common"),
  (0x1737, "Unknown"), (0x1740, "Buhid"), (0x1754, "Unknown"), (0x1760, "Tagbanwa"),
  (0x176d, "Unknown"), (0x176e, "Tagbanwa"), (0x1771, "Unknown"), (0x1772, "Tagbanwa"),
  (0x1774, "Unknown"), (0x1780, "Khmer"), (0x17de, "Unknown"), (0x17e0, "Khmer"),
  (0x17ea, "Unknown"), (0x17f0, "Khmer"), (0x17fa, "Unknown"), (0x1800, "Mongolian"),
  (0x1802, "Common"), (0x1804, "Mongolian"), (0x1805, "Common"), (0x1806, "Mongolian"),
  (0x181a, "Unknown"), (0x1820, "Mongolian"), (0x1879, "Unknown"), (0x1880, "Mongolian"),
  (0x18ab, "Unknown"), (0x18b0, "Canadian_Aboriginal"), (0x18f6, "Unknown"), (0x1900, "Limbu"),
  (0x191f, "Unknown"), (0x1920, "Limbu"), (0x192c, "Unknown"), (0x1930, "Limbu"),
  (0x193c, "Unknown"), (0x1940, "Limbu"), (0x1941, "Unknown"), (0x1944, "Limbu"),
  (0x1950, "Tai_Le"), (0x196e, "Unknown"), (0x1970, "Tai_Le"), (0x1975, "Unknown"),
  (0x1980, "New_Tai_Lue"), (0x19ac, "Unknown"), (0x19b0, "New_Tai_Lue"), (0x19ca, "Unknown"),
  (0x19d0, "New_Tai_Lue"), (0x19db, "Unknown"), (0x19de, "New_Tai_Lue"), (0x19e0, "Khmer"),
  (0x1a00, "Buginese"), (0x1a1c, "Unknown"), (0x1a1e, "Buginese"), (0x1a20, "Tai_Tham"),
  (0x1a5f, "Unknown"), (0x1a60, "Tai_Tham"), (0x1a7d, "Unknown"), (0x1a7f, "Tai_Tham"),
  (0x1a8a, "Unknown"), (0x1a90, "Tai_Tham"), (0x1a9a, "Unknown"), (0x1aa0, "Tai_Tham"),
  (0x1aae, "Unknown"), (0x1ab0, "Inherited"), (0x1ade, "Unknown"), (0x1ae0, "Inherited"),
  (0x1aec, "Unknown"), (0x1b00, "Balinese"), (0x1b4d, "Unknown"), (0x1b4e, "Balinese"),
  (0x1b80, "Sundanese"), (0x1bc0, "Batak"), (0x1bf4, "Unknown"), (0x1bfc, "Batak"),
  (0x1c00, "Lepcha"), (0x1c38, "Unknown"), (0x1c3b, "Lepcha"), (0x1c4a, "Unknown"),
  (0x1c4d, "Lepcha"), (0x1c50, "Ol_Chiki"), (0x1c80, "Cyrillic"), (0x1c8b, "Unknown"),
  (0x1c90, "Georgian"), (0x1cbb, "Unknown"), (0x1cbd, "Georgian"), (0x1cc0, "Sundanese"),
  (0x1cc8, "Unknown"), (0x1cd0, "Inherited"), (0x1cd3, "Common"), (0x1cd4, "Inherited"),
  (0x1ce1, "Common"), (0x1ce2, "Inherited"), (0x1ce9, "Common"), (0x1ced, "Inherited"),
  (0x1cee, "Common"), (0x1cf4, "Inherited"), (0x1cf5, "Common"), (0x1cf8, "Inherited"),
  (0x1cfa, "Common"), (0x1cfb, "Unknown"), (0x1d00, "Latin"), (0x1d26, "Greek"),
  (0x1d2b, "Cyrillic"), (0x1d2c, "Latin"), (0x1d5d, "Greek"), (0x1d62, "Latin"),
  (0x1d66, "Greek"), (0x1d6b, "Latin"), (0x1d78, "Cyrillic"), (0x1d79, "Latin"),
  (0x1dbf, "Greek"), (0x1dc0, "Inherited"), (0x1e00, "Latin"), (0x1f00, "Greek"),
  (0x1f16, "Unknown"), (0x1f18, "Greek"), (0x1f1e, "Unknown"), (0x1f20, "Greek"),
  (0x1f46, "Unknown"), (0x1f48, "Greek"), (0x1f4e, "Unknown"), (0x1f50, "Greek"),
  (0x1f58, "Unknown"), (0x1f59, "Greek"), (0x1f5a, "Unknown"), (0x1f5b, "Greek"),
  (0x1f5c, "Unknown"), (0x1f5d, "Greek"), (0x1f5e, "Unknown"), (0x1f5f, "Greek"),
  (0x1f7e, "Unknown"), (0x1f80, "Greek"), (0x1fb5, "Unknown"), (0x1fb6, "Greek"),
  (0x1fc5, "Unknown"), (0x1fc6, "Greek"), (0x1fd4, "Unknown"), (0x1fd6, "Greek"),
  (0x1fdc, "Unknown"), (0x1fdd, "Greek"), (0x1ff0, "Unknown"), (0x1ff2, "Greek"),
  (0x1ff5, "Unknown"), (0x1ff6, "Greek"), (0x1fff, "Unknown"), (0x2000, "Common"),
  (0x200c, "Inherited"), (0x200e, "Common"), (0x2065, "Unknown"), (0x2066, "Common"),
  (0x2071, "Latin"), (0x2072, "Unknown"), (0x2074, "Common"), (0x207f, "Latin"),
  (0x2080, "Common"), (0x208f, "Unknown"), (0x2090, "Latin"), (0x209d, "Unknown"),
  (0x20a0, "Common"), (0x20c2, "Unknown"), (0x20d0, "Inherited"), (0x20f1, "Unknown"),
  (0x2100, "Common"), (0x2126, "Greek"), (0x2127, "Common"), (0x212a, "Latin"),
  (0x212c, "Common"), (0x2132, "Latin"), (0x2133, "Common"), (0x214e, "Latin"),
  (0x214f, "Common"), (0x2160, "Latin"), (0x2189, "Common"), (0x218c, "Unknown"),
  (0x2190, "Common"), (0x242a, "Unknown"), (0x2440, "Common"), (0x244b, "Unknown"),
  (0x2460, "Common"), (0x2800, "Braille"), (0x2900, "Common"), (0x2b74, "Unknown"),
  (0x2b76, "Common"), (0x2c00, "Glagolitic"), (0x2c60, "Latin"), (0x2c80, "Coptic"),
  (0x2cf4, "Unknown"), (0x2cf9, "Coptic"), (0x2d00, "Georgian"), (0x2d26, "Unknown"),
  (0x2d27, "Georgian"), (0x2d28, "Unknown"), (0x2d2d, "Georgian"), (0x2d2e, "Unknown"),
  (0x2d30, "Tifinagh"), (0x2d68, "Unknown"), (0x2d6f, "Tifinagh"), (0x2d71, "Unknown"),
  (0x2d7f, "Tifinagh"), (0x2d80, "Ethiopic"), (0x2d97, "Unknown"), (0x2da0, "Ethiopic"),
  (0x2da7, "Unknown"), (0x2da8, "Ethiopic"), (0x2daf, "Unknown"), (0x2db0, "Ethiopic"),
  (0x2db7, "Unknown"), (0x2db8, "Ethiopic"), (0x2dbf, "Unknown"), (0x2dc0, "Ethiopic"),
  (0x2dc7, "Unknown"), (0x2dc8, "Ethiopic"), (0x2dcf, "Unknown"), (0x2dd0, "Ethiopic"),
  (0x2dd7, "Unknown"), (0x2dd8, "Ethiopic"), (0x2ddf, "Unknown"), (0x2de0, "Cyrillic"),
  (0x2e00, "Common"), (0x2e5e, "Unknown"), (0x2e80, "Han"), (0x2e9a, "Unknown"), (0x2e9b, "Han"),
  (0x2ef4, "Unknown"), (0x2f00, "Han"), (0x2fd6, "Unknown"), (0x2ff0, "Common"), (0x3005, "Han"),
  (0x3006, "Common"), (0x3007, "Han"), (0x3008, "Common"), (0x3021, "Han"), (0x302a, "Inherited"),
  (0x302e, "Hangul"), (0x3030, "Common"), (0x3038, "Han"), (0x303c, "Common"),
  (0x3040, "Unknown"), (0x3041, "Hiragana"), (0x3097, "Unknown"), (0x3099, "Inherited"),
  (0x309b, "Common"), (0x309d, "Hiragana"), (0x30a0, "Common"), (0x30a1, "Katakana"),
  (0x30fb, "Common"), (0x30fd, "Katakana"), (0x3100, "Unknown"), (0x3105, "Bopomofo"),
  (0x3130, "Unknown"), (0x3131, "Hangul"), (0x318f, "Unknown"), (0x3190, "Common"),
  (0x31a0, "Bopomofo"), (0x31c0, "Common"), (0x31e6, "Unknown"), (0x31ef, "Common"),
  (0x31f0, "Katakana"), (0x3200, "Hangul"), (0x321f, "Unknown"), (0x3220, "Common"),
  (0x3260, "Hangul"), (0x327f, "Common"), (0x32d0, "Katakana"), (0x32ff, "Common"),
  (0x3300, "Katakana"), (0x3358, "Common"), (0x3400, "Han"), (0x4dc0, "Common"), (0x4e00, "Han"),
  (0xa000, "Yi"), (0xa48d, "Unknown"), (0xa490, "Yi"), (0xa4c7, "Unknown"), (0xa4d0, "Lisu"),
  (0xa500, "Vai"), (0xa62c, "Unknown"), (0xa640, "Cyrillic"), (0xa6a0, "Bamum"),
  (0xa6f8, "Unknown"), (0xa700, "Common"), (0xa722, "Latin"), (0xa788, "Common"),
  (0xa78b, "Latin"), (0xa7dd, "Unknown"), (0xa7f1, "Latin"), (0xa800, "Syloti_Nagri"),
  (0xa82d, "Unknown"), (0xa830, "Common"), (0xa83a, "Unknown"), (0xa840, "Phags_Pa"),
  (0xa878, "Unknown"), (0xa880, "Saurashtra"), (0xa8c6, "Unknown"), (0xa8ce, "Saurashtra"),
  (0xa8da, "Unknown"), (0xa8e0, "Devanagari"), (0xa900, "Kayah_Li"), (0xa92e, "Common"),
  (0xa92f, "Kayah_Li"), (0xa930, "Rejang"), (0xa954, "Unknown"), (0xa95f, "Rejang"),
  (0xa960, "Hangul"), (0xa97d, "Unknown"), (0xa980, "Javanese"), (0xa9ce, "Unknown"),
  (0xa9cf, "Common"), (0xa9d0, "Javanese"), (0xa9da, "Unknown"), (0xa9de, "Javanese"),
  (0xa9e0, "Myanmar"), (0xa9ff, "Unknown"), (0xaa00, "Cham"), (0xaa37, "Unknown"),
  (0xaa40, "Cham"), (0xaa4e, "Unknown"), (0xaa50, "Cham"), (0xaa5a, "Unknown"), (0xaa5c, "Cham"),
  (0xaa60, "Myanmar"), (0xaa80, "Tai_Viet"), (0xaac3, "Unknown"), (0xaadb, "Tai_Viet"),
  (0xaae0, "Meetei_Mayek"), (0xaaf7, "Unknown"), (0xab01, "Ethiopic"), (0xab07, "Unknown"),
  (0xab09, "Ethiopic"), (0xab0f, "Unknown"), (0xab11, "Ethiopic"), (0xab17, "Unknown"),
  (0xab20, "Ethiopic"), (0xab27, "Unknown"), (0xab28, "Ethiopic"), (0xab2f, "Unknown"),
  (0xab30, "Latin"), (0xab5b, "Common"), (0xab5c, "Latin"), (0xab65, "Greek"), (0xab66, "Latin"),
  (0xab6a, "Common"), (0xab6c, "Unknown"), (0xab70, "Cherokee"), (0xabc0, "Meetei_Mayek"),
  (0xabee, "Unknown"), (0xabf0, "Meetei_Mayek"), (0xabfa, "Unknown"), (0xac00, "Hangul"),
  (0xd7a4, "Unknown"), (0xd7b0, "Hangul"), (0xd7c7, "Unknown"), (0xd7cb, "Hangul"),
  (0xd7fc, "Unknown"), (0xf900, "Han"), (0xfa6e, "Unknown"), (0xfa70, "Han"), (0xfada, "Unknown"),
  (0xfb00, "Latin"), (0xfb07, "Unknown"), (0xfb13, "Armenian"), (0xfb18, "Unknown"),
  (0xfb1d, "Hebrew"), (0xfb37, "Unknown"), (0xfb38, "Hebrew"), (0xfb3d, "Unknown"),
  (0xfb3e, "Hebrew"), (0xfb3f, "Unknown"), (0xfb40, "Hebrew"), (0xfb42, "Unknown"),
  (0xfb43, "Hebrew"), (0xfb45, "Unknown"), (0xfb46, "Hebrew"), (0xfb50, "Arabic"),
  (0xfd3e, "Common"), (0xfd40, "Arabic"), (0xfdd0, "Unknown"), (0xfdf0, "Arabic"),
  (0xfe00, "Inherited"), (0xfe10, "Common"), (0xfe1a, "Unknown"), (0xfe20, "Inherited"),
  (0xfe2e, "Cyrillic"), (0xfe30, "Common"), (0xfe53, "Unknown"), (0xfe54, "Common"),
  (0xfe67, "Unknown"), (0xfe68, "Common"), (0xfe6c, "Unknown"), (0xfe70, "Arabic"),
  (0xfe75, "Unknown"), (0xfe76, "Arabic"), (0xfefd, "Unknown"), (0xfeff, "Common"),
  (0xff00, "Unknown"), (0xff01, "Common"), (0xff21, "Latin"), (0xff3b, "Common"),
  (0xff41, "Latin"), (0xff5b, "Common"), (0xff66, "Katakana"), (0xff70, "Common"),
  (0xff71, "Katakana"), (0xff9e, "Common"), (0xffa0, "Hangul"), (0xffbf, "Unknown"),
  (0xffc2, "Hangul"), (0xffc8, "Unknown"), (0xffca, "Hangul"), (0xffd0, "Unknown"),
  (0xffd2, "Hangul"), (0xffd8, "Unknown"), (0xffda, "Hangul"), (0xffdd, "Unknown"),
  (0xffe0, "Common"), (0xffe7, "Unknown"), (0xffe8, "Common"), (0xffef, "Unknown"),
  (0xfff9, "Common"), (0xfffe, "Unknown"), (0x10000, "Linear_B"), (0x1000c, "Unknown"),
  (0x1000d, "Linear_B"), (0x10027, "Unknown"), (0x10028, "Linear_B"), (0x1003b, "Unknown"),
  (0x1003c, "Linear_B"), (0x1003e, "Unknown"), (0x1003f, "Linear_B"), (0x1004e, "Unknown"),
  (0x10050, "Linear_B"), (0x1005e, "Unknown"), (0x10080, "Linear_B"), (0x100fb, "Unknown"),
  (0x10100, "Common"), (0x10103, "Unknown"), (0x10107, "Common"), (0x10134, "Unknown"),
  (0x10137, "Common"), (0x10140, "Greek"), (0x1018f, "Unknown"), (0x10190, "Common"),
  (0x1019d, "Unknown"), (0x101a0, "Greek"), (0x101a1, "Unknown"), (0x101d0, "Common"),
  (0x101fd, "Inherited"), (0x101fe, "Unknown"), (0x10280, "Lycian"), (0x1029d, "Unknown"),
  (0x102a0, "Carian"), (0x102d1, "Unknown"), (0x102e0, "Inherited"), (0x102e1, "Common"),
  (0x102fc, "Unknown"), (0x10300, "Old_Italic"), (0x10324, "Unknown"), (0x1032d, "Old_Italic"),
  (0x10330, "Gothic"), (0x1034b, "Unknown"), (0x10350, "Old_Permic"), (0x1037b, "Unknown"),
  (0x10380, "Ugaritic"), (0x1039e, "Unknown"), (0x1039f, "Ugaritic"), (0x103a0, "Old_Persian"),
  (0x103c4, "Unknown"), (0x103c8, "Old_Persian"), (0x103d6, "Unknown"), (0x10400, "Deseret"),
  (0x10450, "Shavian"), (0x10480, "Osmanya"), (0x1049e, "Unknown"), (0x104a0, "Osmanya"),
  (0x104aa, "Unknown"), (0x104b0, "Osage"), (0x104d4, "Unknown"), (0x104d8, "Osage"),
  (0x104fc, "Unknown"), (0x10500, "Elbasan"), (0x10528, "Unknown"),
  (0x10530, "Caucasian_Albanian"), (0x10564, "Unknown"), (0x1056f, "Caucasian_Albanian"),
  (0x10570, "Vithkuqi"), (0x1057b, "Unknown"), (0x1057c, "Vithkuqi"), (0x1058b, "Unknown"),
  (0x1058c, "Vithkuqi"), (0x10593, "Unknown"), (0x10594, "Vithkuqi"), (0x10596, "Unknown"),
  (0x10597, "Vithkuqi"), (0x105a2, "Unknown"), (0x105a3, "Vithkuqi"), (0x105b2, "Unknown"),
  (0x105b3, "Vithkuqi"), (0x105ba, "Unknown"), (0x105bb, "Vithkuqi"), (0x105bd, "Unknown"),
  (0x105c0, "Todhri"), (0x105f4, "Unknown"), (0x10600, "Linear_A"), (0x10737, "Unknown"),
  (0x10740, "Linear_A"), (0x10756, "Unknown"), (0x10760, "Linear_A"), (0x10768, "Unknown"),
  (0x10780, "Latin"), (0x10786, "Unknown"), (0x10787, "Latin"), (0x107b1, "Unknown"),
  (0x107b2, "Latin"), (0x107bb, "Unknown"), (0x10800, "Cypriot"), (0x10806, "Unknown"),
  (0x10808, "Cypriot"), (0x10809, "Unknown"), (0x1080a, "Cypriot"), (0x10836, "Unknown"),
  (0x10837, "Cypriot"), (0x10839, "Unknown"), (0x1083c, "Cypriot"), (0x1083d, "Unknown"),
  (0x1083f, "Cypriot"), (0x10840, "Imperial_Aramaic"), (0x10856, "Unknown"),
  (0x10857, "Imperial_Aramaic"), (0x10860, "Palmyrene"), (0x10880, "Nabataean"),
  (0x1089f, "Unknown"), (0x108a7, "Nabataean"), (0x108b0, "Unknown"), (0x108e0, "Hatran"),
  (0x108f3, "Unknown"), (0x108f4, "Hatran"), (0x108f6, "Unknown"), (0x108fb, "Hatran"),
  (0x10900, "Phoenician"), (0x1091c, "Unknown"), (0x1091f, "Phoenician"), (0x10920, "Lydian"),
  (0x1093a, "Unknown"), (0x1093f, "Lydian"), (0x10940, "Sidetic"), (0x1095a, "Unknown"),
  (0x10980, "Meroitic_Hieroglyphs"), (0x109a0, "Meroitic_Cursive"), (0x109b8, "Unknown"),
  (0x109bc, "Meroitic_Cursive"), (0x109d0, "Unknown"), (0x109d2, "Meroitic_Cursive"),
  (0x10a00, "Kharoshthi"), (0x10a04, "Unknown"), (0x10a05, "Kharoshthi"), (0x10a07, "Unknown"),
  (0x10a0c, "Kharoshthi"), (0x10a14, "Unknown"), (0x10a15, "Kharoshthi"), (0x10a18, "Unknown"),
  (0x10a19, "Kharoshthi"), (0x10a36, "Unknown"), (0x10a38, "Kharoshthi"), (0x10a3b, "Unknown"),
  (0x10a3f, "Kharoshthi"), (0x10a49, "Unknown"), (0x10a50, "Kharoshthi"), (0x10a59, "Unknown"),
  (0x10a60, "Old_South_Arabian"), (0x10a80, "Old_North_Arabian"), (0x10aa0, "Unknown"),
  (0x10ac0, "Manichaean"), (0x10ae7, "Unknown"), (0x10aeb, "Manichaean"), (0x10af7, "Unknown"),
  (0x10b00, "Avestan"), (0x10b36, "Unknown"), (0x10b39, "Avestan"),
  (0x10b40, "Inscriptional_Parthian"), (0x10b56, "Unknown"), (0x10b58, "Inscriptional_Parthian"),
  (0x10b60, "Inscriptional_Pahlavi"), (0x10b73, "Unknown"), (0x10b78, "Inscriptional_Pahlavi"),
  (0x10b80, "Psalter_Pahlavi"), (0x10b92, "Unknown"), (0x10b99, "Psalter_Pahlavi"),
  (0x10b9d, "Unknown"), (0x10ba9, "Psalter_Pahlavi"), (0x10bb0, "Unknown"),
  (0x10c00, "Old_Turkic"), (0x10c49, "Unknown"), (0x10c80, "Old_Hungarian"), (0x10cb3, "Unknown"),
  (0x10cc0, "Old_Hungarian"), (0x10cf3, "Unknown"), (0x10cfa, "Old_Hungarian"),
  (0x10d00, "Hanifi_Rohingya"), (0x10d28, "Unknown"), (0x10d30, "Hanifi_Rohingya"),
  (0x10d3a, "Unknown"), (0x10d40, "Garay"), (0x10d66, "Unknown"), (0x10d69, "Garay"),
  (0x10d86, "Unknown"), (0x10d8e, "Garay"), (0x10d90, "Unknown"), (0x10e60, "Arabic"),
  (0x10e7f, "Unknown"), (0x10e80, "Yezidi"), (0x10eaa, "Unknown"), (0x10eab, "Yezidi"),
  (0x10eae, "Unknown"), (0x10eb0, "Yezidi"), (0x10eb2, "Unknown"), (0x10ec2, "Arabic"),
  (0x10ec8, "Unknown"), (0x10ed0, "Arabic"), (0x10ed9, "Unknown"), (0x10efa, "Arabic"),
  (0x10f00, "Old_Sogdian"), (0x10f28, "Unknown"), (0x10f30, "Sogdian"), (0x10f5a, "Unknown"),
  (0x10f70, "Old_Uyghur"), (0x10f8a, "Unknown"), (0x10fb0, "Chorasmian"), (0x10fcc, "Unknown"),
  (0x10fe0, "Elymaic"), (0x10ff7, "Unknown"), (0x11000, "Brahmi"), (0x1104e, "Unknown"),
  (0x11052, "Brahmi"), (0x11076, "Unknown"), (0x1107f, "Brahmi"), (0x11080, "Kaithi"),
  (0x110c3, "Unknown"), (0x110cd, "Kaithi"), (0x110ce, "Unknown"), (0x110d0, "Sora_Sompeng"),
  (0x110e9, "Unknown"), (0x110f0, "Sora_Sompeng"), (0x110fa, "Unknown"), (0x11100, "Chakma"),
  (0x11135, "Unknown"), (0x11136, "Chakma"), (0x11148, "Unknown"), (0x11150, "Mahajani"),
  (0x11177, "Unknown"), (0x11180, "Sharada"), (0x111e0, "Unknown"), (0x111e1, "Sinhala"),
  (0x111f5, "Unknown"), (0x11200, "Khojki"), (0x11212, "Unknown"), (0x11213, "Khojki"),
  (0x11242, "Unknown"), (0x11280, "Multani"), (0x11287, "Unknown"), (0x11288, "Multani"),
  (0x11289, "Unknown"), (0x1128a, "Multani"), (0x1128e, "Unknown"), (0x1128f, "Multani"),
  (0x1129e, "Unknown"), (0x1129f, "Multani"), (0x112aa, "Unknown"), (0x112b0, "Khudawadi"),
  (0x112eb, "Unknown"), (0x112f0, "Khudawadi"), (0x112fa, "Unknown"), (0x11300, "Grantha"),
  (0x11304, "Unknown"), (0x11305, "Grantha"), (0x1130d, "Unknown"), (0x1130f, "Grantha"),
  (0x11311, "Unknown"), (0x11313, "Grantha"), (0x11329, "Unknown"), (0x1132a, "Grantha"),
  (0x11331, "Unknown"), (0x11332, "Grantha"), (0x11334, "Unknown"), (0x11335, "Grantha"),
  (0x1133a, "Unknown"), (0x1133b, "Inherited"), (0x1133c, "Grantha"), (0x11345, "Unknown"),
  (0x11347, "Grantha"), (0x11349, "Unknown"), (0x1134b, "Grantha"), (0x1134e, "Unknown"),
  (0x11350, "Grantha"), (0x11351, "Unknown"), (0x11357, "Grantha"), (0x11358, "Unknown"),
  (0x1135d, "Grantha"), (0x11364, "Unknown"), (0x11366, "Grantha"), (0x1136d, "Unknown"),
  (0x11370, "Grantha"), (0x11375, "Unknown"), (0x11380, "Tulu_Tigalari"), (0x1138a, "Unknown"),
  (0x1138b, "Tulu_Tigalari"), (0x1138c, "Unknown"), (0x1138e, "Tulu_Tigalari"),
  (0x1138f, "Unknown"), (0x11390, "Tulu_Tigalari"), (0x113b6, "Unknown"),
  (0x113b7, "Tulu_Tigalari"), (0x113c1, "Unknown"), (0x113c2, "Tulu_Tigalari"),
  (0x113c3, "Unknown"), (0x113c5, "Tulu_Tigalari"), (0x113c6, "Unknown"),
  (0x113c7, "Tulu_Tigalari"), (0x113cb, "Unknown"), (0x113cc, "Tulu_Tigalari"),
  (0x113d6, "Unknown"), (0x113d7, "Tulu_Tigalari"), (0x113d9, "Unknown"),
  (0x113e1, "Tulu_Tigalari"), (0x113e3, "Unknown"), (0x11400, "Newa"), (0x1145c, "Unknown"),
  (0x1145d, "Newa"), (0x11462, "Unknown"), (0x11480, "Tirhuta"), (0x114c8, "Unknown"),
  (0x114d0, "Tirhuta"), (0x114da, "Unknown"), (0x11580, "Siddham"), (0x115b6, "Unknown"),
  (0x115b8, "Siddham"), (0x115de, "Unknown"), (0x11600, "Modi"), (0x11645, "Unknown"),
  (0x11650, "Modi"), (0x1165a, "Unknown"), (0x11660, "Mongolian"), (0x1166d, "Unknown"),
  (0x11680, "Takri"), (0x116ba, "Unknown"), (0x116c0, "Takri"), (0x116ca, "Unknown"),
  (0x116d0, "Myanmar"), (0x116e4, "Unknown"), (0x11700, "Ahom"), (0x1171b, "Unknown"),
  (0x1171d, "Ahom"), (0x1172c, "Unknown"), (0x11730, "Ahom"), (0x11747, "Unknown"),
  (0x11800, "Dogra"), (0x1183c, "Unknown"), (0x118a0, "Warang_Citi"), (0x118f3, "Unknown"),
  (0x118ff, "Warang_Citi"), (0x11900, "Dives_Akuru"), (0x11907, "Unknown"),
  (0x11909, "Dives_Akuru"), (0x1190a, "Unknown"), (0x1190c, "Dives_Akuru"), (0x11914, "Unknown"),
  (0x11915, "Dives_Akuru"), (0x11917, "Unknown"), (0x11918, "Dives_Akuru"), (0x11936, "Unknown"),
  (0x11937, "Dives_Akuru"), (0x11939, "Unknown"), (0x1193b, "Dives_Akuru"), (0x11947, "Unknown"),
  (0x11950, "Dives_Akuru"), (0x1195a, "Unknown"), (0x119a0, "Nandinagari"), (0x119a8, "Unknown"),
  (0x119aa, "Nandinagari"), (0x119d8, "Unknown"), (0x119da, "Nandinagari"), (0x119e5, "Unknown"),
  (0x11a00, "Zanabazar_Square"), (0x11a48, "Unknown"), (0x11a50, "Soyombo"), (0x11aa3, "Unknown"),
  (0x11ab0, "Canadian_Aboriginal"), (0x11ac0, "Pau_Cin_Hau"), (0x11af9, "Unknown"),
  (0x11b00, "Devanagari"), (0x11b0a, "Unknown"), (0x11b60, "Sharada"), (0x11b68, "Unknown"),
  (0x11bc0, "Sunuwar"), (0x11be2, "Unknown"), (0x11bf0, "Sunuwar"), (0x11bfa, "Unknown"),
  (0x11c00, "Bhaiksuki"), (0x11c09, "Unknown"), (0x11c0a, "Bhaiksuki"), (0x11c37, "Unknown"),
  (0x11c38, "Bhaiksuki"), (0x11c46, "Unknown"), (0x11c50, "Bhaiksuki"), (0x11c6d, "Unknown"),
  (0x11c70, "Marchen"), (0x11c90, "Unknown"), (0x11c92, "Marchen"), (0x11ca8, "Unknown"),
  (0x11ca9, "Marchen"), (0x11cb7, "Unknown"), (0x11d00, "Masaram_Gondi"), (0x11d07, "Unknown"),
  (0x11d08, "Masaram_Gondi"), (0x11d0a, "Unknown"), (0x11d0b, "Masaram_Gondi"),
  (0x11d37, "Unknown"), (0x11d3a, "Masaram_Gondi"), (0x11d3b, "Unknown"),
  (0x11d3c, "Masaram_Gondi"), (0x11d3e, "Unknown"), (0x11d3f, "Masaram_Gondi"),
  (0x11d48, "Unknown"), (0x11d50, "Masaram_Gondi"), (0x11d5a, "Unknown"),
  (0x11d60, "Gunjala_Gondi"), (0x11d66, "Unknown"), (0x11d67, "Gunjala_Gondi"),
  (0x11d69, "Unknown"), (0x11d6a, "Gunjala_Gondi"), (0x11d8f, "Unknown"),
  (0x11d90, "Gunjala_Gondi"), (0x11d92, "Unknown"), (0x11d93, "Gunjala_Gondi"),
  (0x11d99, "Unknown"), (0x11da0, "Gunjala_Gondi"), (0x11daa, "Unknown"),
  (0x11db0, "Tolong_Siki"), (0x11ddc, "Unknown"), (0x11de0, "Tolong_Siki"), (0x11dea, "Unknown"),
  (0x11ee0, "Makasar"), (0x11ef9, "Unknown"), (0x11f00, "Kawi"), (0x11f11, "Unknown"),
  (0x11f12, "Kawi"), (0x11f3b, "Unknown"), (0x11f3e, "Kawi"), (0x11f5b, "Unknown"),
  (0x11fb0, "Lisu"), (0x11fb1, "Unknown"), (0x11fc0, "Tamil"), (0x11ff2, "Unknown"),
  (0x11fff, "Tamil"), (0x12000, "Cuneiform"), (0x1239a, "Unknown"), (0x12400, "Cuneiform"),
  (0x1246f, "Unknown"), (0x12470, "Cuneiform"), (0x12475, "Unknown"), (0x12480, "Cuneiform"),
  (0x12544, "Unknown"), (0x12f90, "Cypro_Minoan"), (0x12ff3, "Unknown"),
  (0x13000, "Egyptian_Hieroglyphs"), (0x13456, "Unknown"), (0x13460, "Egyptian_Hieroglyphs"),
  (0x143fb, "Unknown"), (0x14400, "Anatolian_Hieroglyphs"), (0x14647, "Unknown"),
  (0x16100, "Gurung_Khema"), (0x1613a, "Unknown"), (0x16800, "Bamum"), (0x16a39, "Unknown"),
  (0x16a40, "Mro"), (0x16a5f, "Unknown"), (0x16a60, "Mro"), (0x16a6a, "Unknown"),
  (0x16a6e, "Mro"), (0x16a70, "Tangsa"), (0x16abf, "Unknown"), (0x16ac0, "Tangsa"),
  (0x16aca, "Unknown"), (0x16ad0, "Bassa_Vah"), (0x16aee, "Unknown"), (0x16af0, "Bassa_Vah"),
  (0x16af6, "Unknown"), (0x16b00, "Pahawh_Hmong"), (0x16b46, "Unknown"),
  (0x16b50, "Pahawh_Hmong"), (0x16b5a, "Unknown"), (0x16b5b, "Pahawh_Hmong"),
  (0x16b62, "Unknown"), (0x16b63, "Pahawh_Hmong"), (0x16b78, "Unknown"),
  (0x16b7d, "Pahawh_Hmong"), (0x16b90, "Unknown"), (0x16d40, "Kirat_Rai"), (0x16d7a, "Unknown"),
  (0x16e40, "Medefaidrin"), (0x16e9b, "Unknown"), (0x16ea0, "Beria_Erfe"), (0x16eb9, "Unknown"),
  (0x16ebb, "Beria_Erfe"), (0x16ed4, "Unknown"), (0x16f00, "Miao"), (0x16f4b, "Unknown"),
  (0x16f4f, "Miao"), (0x16f88, "Unknown"), (0x16f8f, "Miao"), (0x16fa0, "Unknown"),
  (0x16fe0, "Tangut"), (0x16fe1, "Nushu"), (0x16fe2, "Han"), (0x16fe4, "Khitan_Small_Script"),
  (0x16fe5, "Unknown"), (0x16ff0, "Han"), (0x16ff7, "Unknown"), (0x17000, "Tangut"),
  (0x18b00, "Khitan_Small_Script"), (0x18cd6, "Unknown"), (0x18cff, "Khitan_Small_Script"),
  (0x18d00, "Tangut"), (0x18d1f, "Unknown"), (0x18d80, "Tangut"), (0x18df3, "Unknown"),
  (0x1aff0, "Katakana"), (0x1aff4, "Unknown"), (0x1aff5, "Katakana"), (0x1affc, "Unknown"),
  (0x1affd, "Katakana"), (0x1afff, "Unknown"), (0x1b000, "Katakana"), (0x1b001, "Hiragana"),
  (0x1b120, "Katakana"), (0x1b123, "Unknown"), (0x1b132, "Hiragana"), (0x1b133, "Unknown"),
  (0x1b150, "Hiragana"), (0x1b153, "Unknown"), (0x1b155, "Katakana"), (0x1b156, "Unknown"),
  (0x1b164, "Katakana"), (0x1b168, "Unknown"), (0x1b170, "Nushu"), (0x1b2fc, "Unknown"),
  (0x1bc00, "Duployan"), (0x1bc6b, "Unknown"), (0x1bc70, "Duployan"), (0x1bc7d, "Unknown"),
  (0x1bc80, "Duployan"), (0x1bc89, "Unknown"), (0x1bc90, "Duployan"), (0x1bc9a, "Unknown"),
  (0x1bc9c, "Duployan"), (0x1bca0, "Common"), (0x1bca4, "Unknown"), (0x1cc00, "Common"),
  (0x1ccfd, "Unknown"), (0x1cd00, "Common"), (0x1ceb4, "Unknown"), (0x1ceba, "Common"),
  (0x1ced1, "Unknown"), (0x1cee0, "Common"), (0x1cef1, "Unknown"), (0x1cf00, "Inherited"),
  (0x1cf2e, "Unknown"), (0x1cf30, "Inherited"), (0x1cf47, "Unknown"), (0x1cf50, "Common"),
  (0x1cfc4, "Unknown"), (0x1d000, "Common"), (0x1d0f6, "Unknown"), (0x1d100, "Common"),
  (0x1d127, "Unknown"), (0x1d129, "Common"), (0x1d167, "Inherited"), (0x1d16a, "Common"),
  (0x1d17b, "Inherited"), (0x1d183, "Common"), (0x1d185, "Inherited"), (0x1d18c, "Common"),
  (0x1d1aa, "Inherited"), (0x1d1ae, "Common"), (0x1d1eb, "Unknown"), (0x1d200, "Greek"),
  (0x1d246, "Unknown"), (0x1d2c0, "Common"), (0x1d2d4, "Unknown"), (0x1d2e0, "Common"),
  (0x1d2f4, "Unknown"), (0x1d300, "Common"), (0x1d357, "Unknown"), (0x1d360, "Common"),
  (0x1d379, "Unknown"), (0x1d400, "Common"), (0x1d455, "Unknown"), (0x1d456, "Common"),
  (0x1d49d, "Unknown"), (0x1d49e, "Common"), (0x1d4a0, "Unknown"), (0x1d4a2, "Common"),
  (0x1d4a3, "Unknown"), (0x1d4a5, "Common"), (0x1d4a7, "Unknown"), (0x1d4a9, "Common"),
  (0x1d4ad, "Unknown"), (0x1d4ae, "Common"), (0x1d4ba, "Unknown"), (0x1d4bb, "Common"),
  (0x1d4bc, "Unknown"), (0x1d4bd, "Common"), (0x1d4c4, "Unknown"), (0x1d4c5, "Common"),
  (0x1d506, "Unknown"), (0x1d507, "Common"), (0x1d50b, "Unknown"), (0x1d50d, "Common"),
  (0x1d515, "Unknown"), (0x1d516, "Common"), (0x1d51d, "Unknown"), (0x1d51e, "Common"),
  (0x1d53a, "Unknown"), (0x1d53b, "Common"), (0x1d53f, "Unknown"), (0x1d540, "Common"),
  (0x1d545, "Unknown"), (0x1d546, "Common"), (0x1d547, "Unknown"), (0x1d54a, "Common"),
  (0x1d551, "Unknown"), (0x1d552, "Common"), (0x1d6a6, "Unknown"), (0x1d6a8, "Common"),
  (0x1d7cc, "Unknown"), (0x1d7ce, "Common"), (0x1d800, "SignWriting"), (0x1da8c, "Unknown"),
  (0x1da9b, "SignWriting"), (0x1daa0, "Unknown"), (0x1daa1, "SignWriting"), (0x1dab0, "Unknown"),
  (0x1df00, "Latin"), (0x1df1f, "Unknown"), (0x1df25, "Latin"), (0x1df2b, "Unknown"),
  (0x1e000, "Glagolitic"), (0x1e007, "Unknown"), (0x1e008, "Glagolitic"), (0x1e019, "Unknown"),
  (0x1e01b, "Glagolitic"), (0x1e022, "Unknown"), (0x1e023, "Glagolitic"), (0x1e025, "Unknown"),
  (0x1e026, "Glagolitic"), (0x1e02b, "Unknown"), (0x1e030, "Cyrillic"), (0x1e06e, "Unknown"),
  (0x1e08f, "Cyrillic"), (0x1e090, "Unknown"), (0x1e100, "Nyiakeng_Puachue_Hmong"),
  (0x1e12d, "Unknown"), (0x1e130, "Nyiakeng_Puachue_Hmong"), (0x1e13e, "Unknown"),
  (0x1e140, "Nyiakeng_Puachue_Hmong"), (0x1e14a, "Unknown"), (0x1e14e, "Nyiakeng_Puachue_Hmong"),
  (0x1e150, "Unknown"), (0x1e290, "Toto"), (0x1e2af, "Unknown"), (0x1e2c0, "Wancho"),
  (0x1e2fa, "Unknown"), (0x1e2ff, "Wancho"), (0x1e300, "Unknown"), (0x1e4d0, "Nag_Mundari"),
  (0x1e4fa, "Unknown"), (0x1e5d0, "Ol_Onal"), (0x1e5fb, "Unknown"), (0x1e5ff, "Ol_Onal"),
  (0x1e600, "Unknown"), (0x1e6c0, "Tai_Yo"), (0x1e6df, "Unknown"), (0x1e6e0, "Tai_Yo"),
  (0x1e6f6, "Unknown"), (0x1e6fe, "Tai_Yo"), (0x1e700, "Unknown"), (0x1e7e0, "Ethiopic"),
  (0x1e7e7, "Unknown"), (0x1e7e8, "Ethiopic"), (0x1e7ec, "Unknown"), (0x1e7ed, "Ethiopic"),
  (0x1e7ef, "Unknown"), (0x1e7f0, "Ethiopic"), (0x1e7ff, "Unknown"), (0x1e800, "Mende_Kikakui"),
  (0x1e8c5, "Unknown"), (0x1e8c7, "Mende_Kikakui"), (0x1e8d7, "Unknown"), (0x1e900, "Adlam"),
  (0x1e94c, "Unknown"), (0x1e950, "Adlam"), (0x1e95a, "Unknown"), (0x1e95e, "Adlam"),
  (0x1e960, "Unknown"), (0x1ec71, "Common"), (0x1ecb5, "Unknown"), (0x1ed01, "Common"),
  (0x1ed3e, "Unknown"), (0x1ee00, "Arabic"), (0x1ee04, "Unknown"), (0x1ee05, "Arabic"),
  (0x1ee20, "Unknown"), (0x1ee21, "Arabic"), (0x1ee23, "Unknown"), (0x1ee24, "Arabic"),
  (0x1ee25, "Unknown"), (0x1ee27, "Arabic"), (0x1ee28, "Unknown"), (0x1ee29, "Arabic"),
  (0x1ee33, "Unknown"), (0x1ee34, "Arabic"), (0x1ee38, "Unknown"), (0x1ee39, "Arabic"),
  (0x1ee3a, "Unknown"), (0x1ee3b, "Arabic"), (0x1ee3c, "Unknown"), (0x1ee42, "Arabic"),
  (0x1ee43, "Unknown"), (0x1ee47, "Arabic"), (0x1ee48, "Unknown"), (0x1ee49, "Arabic"),
  (0x1ee4a, "Unknown"), (0x1ee4b, "Arabic"), (0x1ee4c, "Unknown"), (0x1ee4d, "Arabic"),
  (0x1ee50, "Unknown"), (0x1ee51, "Arabic"), (0x1ee53, "Unknown"), (0x1ee54, "Arabic"),
  (0x1ee55, "Unknown"), (0x1ee57, "Arabic"), (0x1ee58, "Unknown"), (0x1ee59, "Arabic"),
  (0x1ee5a, "Unknown"), (0x1ee5b, "Arabic"), (0x1ee5c, "Unknown"), (0x1ee5d, "Arabic"),
  (0x1ee5e, "Unknown"), (0x1ee5f, "Arabic"), (0x1ee60, "Unknown"), (0x1ee61, "Arabic"),
  (0x1ee63, "Unknown"), (0x1ee64, "Arabic"), (0x1ee65, "Unknown"), (0x1ee67, "Arabic"),
  (0x1ee6b, "Unknown"), (0x1ee6c, "Arabic"), (0x1ee73, "Unknown"), (0x1ee74, "Arabic"),
  (0x1ee78, "Unknown"), (0x1ee79, "Arabic"), (0x1ee7d, "Unknown"), (0x1ee7e, "Arabic"),
  (0x1ee7f, "Unknown"), (0x1ee80, "Arabic"), (0x1ee8a, "Unknown"), (0x1ee8b, "Arabic"),
  (0x1ee9c, "Unknown"), (0x1eea1, "Arabic"), (0x1eea4, "Unknown"), (0x1eea5, "Arabic"),
  (0x1eeaa, "Unknown"), (0x1eeab, "Arabic"), (0x1eebc, "Unknown"), (0x1eef0, "Arabic"),
  (0x1eef2, "Unknown"), (0x1f000, "Common"), (0x1f02c, "Unknown"), (0x1f030, "Common"),
  (0x1f094, "Unknown"), (0x1f0a0, "Common"), (0x1f0af, "Unknown"), (0x1f0b1, "Common"),
  (0x1f0c0, "Unknown"), (0x1f0c1, "Common"), (0x1f0d0, "Unknown"), (0x1f0d1, "Common"),
  (0x1f0f6, "Unknown"), (0x1f100, "Common"), (0x1f1ae, "Unknown"), (0x1f1e6, "Common"),
  (0x1f200, "Hiragana"), (0x1f201, "Common"), (0x1f203, "Unknown"), (0x1f210, "Common"),
  (0x1f23c, "Unknown"), (0x1f240, "Common"), (0x1f249, "Unknown"), (0x1f250, "Common"),
  (0x1f252, "Unknown"), (0x1f260, "Common"), (0x1f266, "Unknown"), (0x1f300, "Common"),
  (0x1f6d9, "Unknown"), (0x1f6dc, "Common"), (0x1f6ed, "Unknown"), (0x1f6f0, "Common"),
  (0x1f6fd, "Unknown"), (0x1f700, "Common"), (0x1f7da, "Unknown"), (0x1f7e0, "Common"),
  (0x1f7ec, "Unknown"), (0x1f7f0, "Common"), (0x1f7f1, "Unknown"), (0x1f800, "Common"),
  (0x1f80c, "Unknown"), (0x1f810, "Common"), (0x1f848, "Unknown"), (0x1f850, "Common"),
  (0x1f85a, "Unknown"), (0x1f860, "Common"), (0x1f888, "Unknown"), (0x1f890, "Common"),
  (0x1f8ae, "Unknown"), (0x1f8b0, "Common"), (0x1f8bc, "Unknown"), (0x1f8c0, "Common"),
  (0x1f8c2, "Unknown"), (0x1f8d0, "Common"), (0x1f8d9, "Unknown"), (0x1f900, "Common"),
  (0x1fa58, "Unknown"), (0x1fa60, "Common"), (0x1fa6e, "Unknown"), (0x1fa70, "Common"),
  (0x1fa7d, "Unknown"), (0x1fa80, "Common"), (0x1fa8b, "Unknown"), (0x1fa8e, "Common"),
  (0x1fac7, "Unknown"), (0x1fac8, "Common"), (0x1fac9, "Unknown"), (0x1facd, "Common"),
  (0x1fadd, "Unknown"), (0x1fadf, "Common"), (0x1faeb, "Unknown"), (0x1faef, "Common"),
  (0x1faf9, "Unknown"), (0x1fb00, "Common"), (0x1fb93, "Unknown"), (0x1fb94, "Common"),
  (0x1fbfb, "Unknown"), (0x20000, "Han"), (0x2a6e0, "Unknown"), (0x2a700, "Han"),
  (0x2b81e, "Unknown"), (0x2b820, "Han"), (0x2ceae, "Unknown"), (0x2ceb0, "Han"),
  (0x2ebe1, "Unknown"), (0x2ebf0, "Han"), (0x2ee5e, "Unknown"), (0x2f800, "Han"),
  (0x2fa1e, "Unknown"), (0x30000, "Han"), (0x3134b, "Unknown"), (0x31350, "Han"),
  (0x3347a, "Unknown"), (0xe0001, "Common"), (0xe0002, "Unknown"), (0xe0020, "Common"),
  (0xe0080, "Unknown"), (0xe0100, "Inherited"), (0xe01f0, "Unknown")]

def boundsOf (name : String) (inside : Bool) : List (Nat × String) → List Nat
  | [] => []
  | (first, next) :: rest =>
    if (next = name) = inside then boundsOf name inside rest
    else first :: boundsOf name (next = name) rest

def set (name : String) : CharSet := ⟨boundsOf name false runs⟩

end Provision.Script

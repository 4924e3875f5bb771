import Provision.Text.Alphabetic
import Provision.Text.Properties
import Provision.Text.Script
import Provision.Text.Space

/-!
# Named properties of characters

A pattern names a property, a general category or a script. Case, blanks, hyphens
and underscores of a name do not matter, nor does a leading `is`.
-/

set_option autoImplicit false

namespace Provision.Property

def dropIs : List Char → List Char
  | 'i' :: 's' :: rest => if rest = ['c'] then ['i', 's', 'c'] else rest
  | cs => cs

def normalize (name : String) : String :=
  String.ofList (dropIs ((name.toList.filter fun c => !(c = ' ' || c = '-' || c = '_')).map
    Char.toLower))

def binary? : String → Option CharSet
  | "alphabetic" | "alpha" => some .alphabetic
  | "asciihexdigit" | "ahex" => some .asciiHexDigit
  | "bidicontrol" | "bidic" => some .bidiControl
  | "caseignorable" | "ci" => some .caseIgnorable
  | "cased" => some .cased
  | "changeswhencasefolded" | "cwcf" => some .changesWhenCasefolded
  | "changeswhencasemapped" | "cwcm" => some .changesWhenCasemapped
  | "changeswhenlowercased" | "cwl" => some .changesWhenLowercased
  | "changeswhentitlecased" | "cwt" => some .changesWhenTitlecased
  | "changeswhenuppercased" | "cwu" => some .changesWhenUppercased
  | "dash" => some .dash
  | "defaultignorablecodepoint" | "di" => some .defaultIgnorableCodePoint
  | "deprecated" | "dep" => some .deprecated
  | "diacritic" | "dia" => some .diacritic
  | "emoji" => some .emoji
  | "emojicomponent" | "ecomp" => some .emojiComponent
  | "emojimodifier" | "emod" => some .emojiModifier
  | "emojimodifierbase" | "ebase" => some .emojiModifierBase
  | "emojipresentation" | "epres" => some .emojiPresentation
  | "extendedpictographic" | "extpict" => some .extendedPictographic
  | "extender" | "ext" => some .extender
  | "graphemebase" | "grbase" => some .graphemeBase
  | "graphemeextend" | "grext" => some .graphemeExtend
  | "hexdigit" | "hex" => some .hexDigit
  | "hyphen" => some .hyphen
  | "idcompatmathcontinue" => some .idCompatMathContinue
  | "idcompatmathstart" => some .idCompatMathStart
  | "idcontinue" | "idc" => some .idContinue
  | "idstart" | "ids" => some .idStart
  | "ideographic" | "ideo" => some .ideographic
  | "idsbinaryoperator" | "idsb" => some .idsBinaryOperator
  | "idstrinaryoperator" | "idst" => some .idsTrinaryOperator
  | "idsunaryoperator" | "idsu" => some .idsUnaryOperator
  | "joincontrol" | "joinc" => some .joinControl
  | "logicalorderexception" | "loe" => some .logicalOrderException
  | "lowercase" | "lower" => some .lowercase
  | "math" => some .math
  | "noncharactercodepoint" | "nchar" => some .noncharacterCodePoint
  | "patternsyntax" | "patsyn" => some .patternSyntax
  | "patternwhitespace" | "patws" => some .patternWhiteSpace
  | "prependedconcatenationmark" | "pcm" => some .prependedConcatenationMark
  | "quotationmark" | "qmark" => some .quotationMark
  | "radical" => some .radical
  | "regionalindicator" | "ri" => some .regionalIndicator
  | "sentenceterminal" | "sterm" => some .sentenceTerminal
  | "softdotted" | "sd" => some .softDotted
  | "terminalpunctuation" | "term" => some .terminalPunctuation
  | "unifiedideograph" | "uideo" => some .unifiedIdeograph
  | "uppercase" | "upper" => some .uppercase
  | "variationselector" | "vs" => some .variationSelector
  | "whitespace" | "wspace" | "space" => some .space
  | "xidcontinue" | "xidc" => some .xidContinue
  | "xidstart" | "xids" => some .xidStart
  | _ => none

open Category in
def categories? : String → Option (List Category)
  | "lu" | "uppercaseletter" => some [lu]
  | "ll" | "lowercaseletter" => some [ll]
  | "lt" | "titlecaseletter" => some [lt]
  | "lc" | "casedletter" => some [lu, ll, lt]
  | "lm" | "modifierletter" => some [lm]
  | "lo" | "otherletter" => some [lo]
  | "l" | "letter" => some [lu, ll, lt, lm, lo]
  | "mn" | "nonspacingmark" => some [mn]
  | "mc" | "spacingmark" => some [mc]
  | "me" | "enclosingmark" => some [me]
  | "m" | "mark" | "combiningmark" => some [mn, mc, me]
  | "nd" | "decimalnumber" | "digit" => some [nd]
  | "nl" | "letternumber" => some [nl]
  | "no" | "othernumber" => some [no]
  | "n" | "number" => some [nd, nl, no]
  | "pc" | "connectorpunctuation" => some [pc]
  | "pd" | "dashpunctuation" => some [pd]
  | "ps" | "openpunctuation" => some [ps]
  | "pe" | "closepunctuation" => some [pe]
  | "pi" | "initialpunctuation" => some [Category.pi]
  | "pf" | "finalpunctuation" => some [pf]
  | "po" | "otherpunctuation" => some [po]
  | "p" | "punctuation" | "punct" => some [pc, pd, ps, pe, Category.pi, pf, po]
  | "sm" | "mathsymbol" => some [sm]
  | "sc" | "currencysymbol" => some [sc]
  | "sk" | "modifiersymbol" => some [sk]
  | "so" | "othersymbol" => some [so]
  | "s" | "symbol" => some [sm, sc, sk, so]
  | "zs" | "spaceseparator" => some [zs]
  | "zl" | "lineseparator" => some [zl]
  | "zp" | "paragraphseparator" => some [zp]
  | "z" | "separator" => some [zs, zl, zp]
  | "cc" | "control" | "cntrl" => some [cc]
  | "cf" | "format" => some [cf]
  | "cs" | "surrogate" => some []
  | "co" | "privateuse" => some [co]
  | "cn" | "unassigned" => some [cn]
  | "c" | "other" => some [cc, cf, co, cn]
  | _ => none

def category? : String → Option CharSet
  | "any" => some ⟨[0]⟩
  | "ascii" => some ⟨[0, 0x80]⟩
  | "assigned" => some (Category.set (· ≠ .cn))
  | name => (categories? name).map CharSet.ofCategories

def script? (name : String) : Option CharSet :=
  (Script.names.find? fun s => normalize s.1 = name || normalize s.2 = name
    || (name = "qaai" && s.1 = "Inherited") || (name = "qaac" && s.1 = "Coptic")).map
    fun s => Script.set s.1

def named? (name : String) : Option CharSet :=
  let name := normalize name
  ((binary? name).or (category? name)).or (script? name)

def valued? (name value : String) : Option CharSet :=
  match normalize name with
  | "gc" | "generalcategory" => category? (normalize value)
  | "sc" | "script" => script? (normalize value)
  | _ => none

end Provision.Property

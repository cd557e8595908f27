import BoostFeed.Numerology.Pattern.Basic

/-! Unicode properties that a pattern may name, as far as they tell decimal digits apart: every property
holds of all ten digits or of none. -/

namespace BoostFeed.Numerology.Property

/-- Names are compared in small letters without spaces, underscores and hyphens; characters beyond
ASCII and a leading `is` do not count. -/
def normalized (name : List Char) : List Char :=
  let small := name.map Char.toLower
  let keep := fun (cs : List Char) =>
    cs.filter fun c => c.toNat < 0x80 && c != ' ' && c != '_' && c != '-'
  match small with
  | 'i' :: 's' :: rest => if keep rest = ['c'] then ['i', 's', 'c'] else keep rest
  | cs => keep cs

def listed (names : String) (name : List Char) : Bool :=
  !name.isEmpty && (names.splitOn " ").contains (String.ofList name)

/-- General categories that hold of the digits. -/
def digitCategories : String := "any assigned ascii n number nd decimalnumber digit"

/-- General categories that hold of no digit. -/
def otherCategories : String :=
  "c other cc control cntrl cf format cn unassigned co privateuse l letter lc casedletter ll " ++
  "lowercaseletter lm modifierletter lo otherletter lt titlecaseletter lu uppercaseletter m mark " ++
  "combiningmark mc spacingmark me enclosingmark mn nonspacingmark nl letternumber no othernumber p " ++
  "punct punctuation pc connectorpunctuation pd dashpunctuation pe closepunctuation pf " ++
  "finalpunctuation pi initialpunctuation po otherpunctuation ps openpunctuation s symbol sc " ++
  "currencysymbol sk modifiersymbol sm mathsymbol so othersymbol z separator zl lineseparator zp " ++
  "paragraphseparator zs spaceseparator"

/-- Binary properties that hold of the digits. -/
def digitProperties : String :=
  "ahex asciihexdigit ecomp emojicomponent emoji grbase graphemebase hex hexdigit idc idcontinue xidc " ++
  "xidcontinue"

/-- Binary properties that hold of no digit. -/
def otherProperties : String :=
  "alpha alphabetic bidic bidicontrol bidim bidimirrored cased caseignorable changeswhencasefolded " ++
  "changeswhencasemapped changeswhenlowercased changeswhentitlecased changeswhenuppercased ci cwcf " ++
  "cwcm cwl cwt cwu dash defaultignorablecodepoint dep deprecated di dia diacritic ebase emod " ++
  "emojimodifier emojimodifierbase emojipresentation epres ext extender extendedpictographic extpict " ++
  "graphemeextend grext ideo ideographic ids idsb idsbinaryoperator idst idstart idstrinaryoperator " ++
  "idsu idsunaryoperator idcompatmathcontinue idcompatmathstart joinc joincontrol loe " ++
  "logicalorderexception lower lowercase math mcm modifiercombiningmark nchar " ++
  "noncharactercodepoint patsyn patternsyntax patternwhitespace patws pcm prependedconcatenationmark " ++
  "qmark quotationmark radical regionalindicator ri sd sentenceterminal softdotted space sterm term " ++
  "terminalpunctuation uideo unifiedideograph upper uppercase variationselector vs whitespace wspace " ++
  "xids xidstart"

/-- The script of the digits. -/
def digitScripts : String := "common zyyy"

/-- Scripts without the digits. -/
def otherScripts : String :=
  "adlam adlm aghb caucasianalbanian ahom anatolianhieroglyphs hluw arab arabic armenian armn avestan " ++
  "avst bali balinese bamu bamum bass bassavah batak batk beng bengali bhaiksuki bhks bopo bopomofo " ++
  "brah brahmi brai braille bugi buginese buhd buhid cakm chakma canadianaboriginal cans cari carian " ++
  "cham cher cherokee chorasmian chrs copt coptic qaac cpmn cyprominoan cprt cypriot cuneiform xsux " ++
  "cyrillic cyrl deseret dsrt deva devanagari diak divesakuru dogr dogra dupl duployan egyp " ++
  "egyptianhieroglyphs elba elbasan elym elymaic ethi ethiopic gara garay geor georgian glag " ++
  "glagolitic gong gunjalagondi gonm masaramgondi goth gothic gran grantha greek grek gujarati gujr " ++
  "gukh gurungkhema gurmukhi guru han hang hangul hani hanifirohingya rohg hano hanunoo hatr hatran " ++
  "hebr hebrew hira hiragana hmng pahawhhmong hmnp nyiakengpuachuehmong hung oldhungarian " ++
  "imperialaramaic armi inherited qaai zinh inscriptionalpahlavi phli inscriptionalparthian prti ital " ++
  "olditalic java javanese kaithi kthi kali kayahli kana katakana kannada knda kawi khar kharoshthi " ++
  "khitansmallscript kits khmer khmr khoj khojki khudawadi sind kirat kiratrai krai lana taitham lao " ++
  "laoo latin latn lepc lepcha limb limbu lina lineara linb linearb lisu lyci lycian lydi lydian " ++
  "mahajani mahj maka makasar malayalam mlym mand mandaic mani manichaean marc marchen medefaidrin " ++
  "medf meeteimayek mtei mend mendekikakui merc meroiticcursive mero meroitichieroglyphs miao plrd " ++
  "modi mong mongolian mro mroo mult multani myanmar mymr nabataean nbat nagm nagmundari nand " ++
  "nandinagari narb oldnortharabian newa newtailue talu nko nkoo nshu nushu ogam ogham olchiki olck " ++
  "oldpermic perm oldpersian xpeo oldsogdian sogo oldsoutharabian sarb oldturkic orkh olduyghur ougr " ++
  "olonal onao oriya orya osage osge osma osmanya palm palmyrene pauc paucinhau phag phagspa phlp " ++
  "psalterpahlavi phnx phoenician rejang rjng runic runr samaritan samr saur saurashtra sgnw " ++
  "signwriting sharada shrd shavian shaw sidd siddham sinh sinhala sogd sogdian sora sorasompeng soyo " ++
  "soyombo sund sundanese sunu sunuwar sylo sylotinagri syrc syriac tagalog tglg tagb tagbanwa taile " ++
  "tale taiviet tavt takr takri tamil taml tang tangut tangsa tnsa telu telugu thaa thaana thai tibetan " ++
  "tibt tfng tifinagh tirh tirhuta todhri todr toto tulutigalari tutg ugar ugaritic vai vaii vith " ++
  "vithkuqi wancho wcho wara warangciti yezi yezidi yi yiii zanabazarsquare zanb"

/-- Versions of the standard; the digits are in all of them. -/
def ages : String :=
  "1.1 v11 2.0 v20 2.1 v21 3.0 v30 3.1 v31 3.2 v32 4.0 v40 4.1 v41 5.0 v50 5.1 v51 5.2 v52 6.0 v60 6.1 v61 " ++
  "6.2 v62 6.3 v63 7.0 v70 8.0 v80 9.0 v90 10.0 v100 11.0 v110 12.0 v120 12.1 v121 13.0 v130 14.0 v140 " ++
  "15.0 v150 15.1 v151 16.0 v160"

def graphemeBreaks : String :=
  "cn control cr ex extend l lf lv lvt pp prepend regionalindicator ri sm spacingmark t v zwj"

def wordBreaks : String :=
  "aletter cr doublequote dq ex extend extendnumlet fo format hebrewletter hl ka katakana le lf mb " ++
  "midletter midnum midnumlet ml mn newline nl regionalindicator ri singlequote sq wsegspace zwj"

def sentenceBreaks : String :=
  "at aterm cl close cr ex extend fo format le lf lo lower oletter sc scontinue se sep sp st sterm up " ++
  "upper"

/-- A name among those that hold of the digits, or among those that do not. -/
def choose (yes no : String) (name : List Char) : Option DigitSet :=
  if listed yes name then some .all else if listed no name then some .none else none

def category? (name : List Char) : Option DigitSet := choose digitCategories otherCategories name

def script? (name : List Char) : Option DigitSet := choose digitScripts otherScripts name

/-- Names of properties that take a value, which a name alone may not be. -/
def valued : String := "age isc scx gcb wb sb gc blk bc ccc dt ea jt jg lb nt nv hst script"

/-- The digits with a property named alone: a binary property, a category or a script. -/
def named? (name : List Char) : Option DigitSet :=
  let n := normalized name
  if listed valued n then none
  else choose digitProperties otherProperties n <|> category? n <|> script? n

/-- The digits with a property that has a value. -/
def withValue? (name value : List Char) : Option DigitSet :=
  let v := normalized value
  match String.ofList (normalized name) with
  | "gc" | "generalcategory" => category? v
  | "sc" | "script" | "scx" | "scriptextensions" => script? v
  | "age" => choose ages "" v
  | "gcb" | "graphemeclusterbreak" => choose "" graphemeBreaks v
  | "wb" | "wordbreak" => choose "nu numeric" wordBreaks v
  | "sb" | "sentencebreak" => choose "nu numeric" sentenceBreaks v
  | _ => none

end BoostFeed.Numerology.Property

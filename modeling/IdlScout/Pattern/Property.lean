import IdlScout.Text.Word

/-! Names of Unicode properties that a class of a pattern can refer to, without their spaces,
hyphens and underscores, in small letters. -/

namespace IdlScout
namespace Pattern

/-- Words that stand on lines. -/
def names (lines : List String) : List Text :=
  lines.flatMap fun line => Text.cut ' ' line.toList

/-- Names of general categories. -/
def categoryNames : List Text := names [
  "c casedletter cc cf closepunctuation cn cntrl co combiningmark connectorpunctuation",
  "control currencysymbol dashpunctuation decimalnumber digit enclosingmark",
  "finalpunctuation format initialpunctuation l lc letter letternumber lineseparator ll lm",
  "lo lowercaseletter lt lu m mark mathsymbol mc me mn modifierletter modifiersymbol n nd",
  "nl no nonspacingmark number openpunctuation other otherletter othernumber",
  "otherpunctuation othersymbol p paragraphseparator pc pd pe pf pi po privateuse ps punct",
  "punctuation s sc separator sk sm so spaceseparator spacingmark symbol titlecaseletter",
  "unassigned uppercaseletter z zl zp zs any assigned ascii"]

/-- Names of scripts. -/
def scriptNames : List Text := names [
  "adlam adlm aghb ahom anatolianhieroglyphs arab arabic armenian armi armn avestan avst",
  "bali balinese bamu bamum bass bassavah batak batk beng bengali bhaiksuki bhks bopo",
  "bopomofo brah brahmi brai braille bugi buginese buhd buhid cakm canadianaboriginal cans",
  "cari carian caucasianalbanian chakma cham cher cherokee chorasmian chrs common copt",
  "coptic cpmn cprt cuneiform cypriot cyprominoan cyrillic cyrl deseret deva devanagari",
  "diak divesakuru dogr dogra dsrt dupl duployan egyp egyptianhieroglyphs elba elbasan elym",
  "elymaic ethi ethiopic geor georgian glag glagolitic gong gonm goth gothic gran grantha",
  "greek grek gujarati gujr gunjalagondi gurmukhi guru han hang hangul hani hanifirohingya",
  "hano hanunoo hatr hatran hebr hebrew hira hiragana hluw hmng hmnp hung imperialaramaic",
  "inherited inscriptionalpahlavi inscriptionalparthian ital java javanese kaithi kali kana",
  "kannada katakana kawi kayahli khar kharoshthi khitansmallscript khmer khmr khoj khojki",
  "khudawadi kits knda kthi lana lao laoo latin latn lepc lepcha limb limbu lina linb",
  "lineara linearb lisu lyci lycian lydi lydian mahajani mahj maka makasar malayalam mand",
  "mandaic mani manichaean marc marchen masaramgondi medefaidrin medf meeteimayek mend",
  "mendekikakui merc mero meroiticcursive meroitichieroglyphs miao mlym modi mong mongolian",
  "mro mroo mtei mult multani myanmar mymr nabataean nagm nagmundari nand nandinagari narb",
  "nbat newa newtailue nko nkoo nshu nushu nyiakengpuachuehmong ogam ogham olchiki olck",
  "oldhungarian olditalic oldnortharabian oldpermic oldpersian oldsogdian oldsoutharabian",
  "oldturkic olduyghur oriya orkh orya osage osge osma osmanya ougr pahawhhmong palm",
  "palmyrene pauc paucinhau perm phag phagspa phli phlp phnx phoenician plrd prti",
  "psalterpahlavi qaac qaai rejang rjng rohg runic runr samaritan samr sarb saur saurashtra",
  "sgnw sharada shavian shaw shrd sidd siddham signwriting sind sinh sinhala sogd sogdian",
  "sogo sora sorasompeng soyo soyombo sund sundanese sylo sylotinagri syrc syriac tagalog",
  "tagb tagbanwa taile taitham taiviet takr takri tale talu tamil taml tang tangsa tangut",
  "tavt telu telugu tfng tglg thaa thaana thai tibetan tibt tifinagh tirh tirhuta tnsa toto",
  "ugar ugaritic vai vaii vith vithkuqi wancho wara warangciti wcho xpeo xsux yezi yezidi",
  "yi yiii zanabazarsquare zanb zinh zyyy"]

/-- Versions in which code points were assigned. -/
def ageNames : List Text := names [
  "1.1 10.0 11.0 12.0 12.1 13.0 14.0 15.0 2.0 2.1 3.0 3.1 3.2 4.0 4.1 5.0 5.1 5.2 6.0 6.1",
  "6.2 6.3 7.0 8.0 9.0 v100 v11 v110 v120 v121 v130 v140 v150 v20 v21 v30 v31 v32 v40 v41",
  "v50 v51 v52 v60 v61 v62 v63 v70 v80 v90"]

/-- Values of the property Grapheme_Cluster_Break. -/
def graphemeBreakNames : List Text := names [
  "cn control cr ex extend l lf lv lvt pp prepend regionalindicator ri sm spacingmark t v",
  "zwj"]

/-- Values of the property Sentence_Break. -/
def sentenceBreakNames : List Text := names [
  "at aterm cl close cr ex extend fo format le lf lo lower nu numeric oletter sc scontinue",
  "se sep sp st sterm up upper"]

/-- Values of the property Word_Break. -/
def wordBreakNames : List Text := names [
  "aletter cr doublequote dq ex extend extendnumlet fo format hebrewletter hl ka katakana",
  "le lf mb midletter midnum midnumlet ml mn newline nl nu numeric regionalindicator ri",
  "singlequote sq wsegspace zwj"]

/-- Names of properties that code points have or lack. -/
def propertyNames : List Text := names [
  "ahex alpha alphabetic asciihexdigit bidic bidicontrol bidim bidimirrored cased",
  "caseignorable changeswhencasefolded changeswhencasemapped changeswhenlowercased",
  "changeswhentitlecased changeswhenuppercased ci cwcf cwcm cwl cwt cwu dash",
  "defaultignorablecodepoint dep deprecated di dia diacritic ebase ecomp emod emoji",
  "emojicomponent emojimodifier emojimodifierbase emojipresentation epres ext",
  "extendedpictographic extender extpict graphemebase graphemeextend graphemelink grbase",
  "grext grlink hex hexdigit hyphen idc idcontinue ideo ideographic ids idsb",
  "idsbinaryoperator idst idstart idstrinaryoperator joinc joincontrol loe",
  "logicalorderexception lower lowercase math nchar noncharactercodepoint oalpha odi ogrext",
  "oidc oids olower omath otheralphabetic otherdefaultignorablecodepoint",
  "othergraphemeextend otheridcontinue otheridstart otherlowercase othermath otheruppercase",
  "oupper patsyn patternsyntax patternwhitespace patws pcm prependedconcatenationmark qmark",
  "quotationmark radical regionalindicator ri sd sentenceterminal softdotted space sterm",
  "term terminalpunctuation uideo unifiedideograph upper uppercase variationselector vs",
  "whitespace wspace xidc xidcontinue xids xidstart"]

/-- Properties that take one of several values, with these. -/
def valuedProperties : List (List Text × List Text) :=
  [(names ["gc generalcategory"], categoryNames),
   (names ["sc script"], scriptNames),
   (names ["scx scriptextensions"], scriptNames),
   (names ["age"], ageNames),
   (names ["gcb graphemeclusterbreak"], graphemeBreakNames),
   (names ["sb sentencebreak"], sentenceBreakNames),
   (names ["wb wordbreak"], wordBreakNames)]

/-- A small letter for a capital one of A to Z. -/
def toSmall (c : Char) : Char :=
  if 'A' ≤ c && c ≤ 'Z' then Char.ofNat (c.toNat + 32) else c

/-- A name is compared without case, spaces, hyphens, underscores, characters beyond ASCII, and the
letters "is" before it. -/
def plainName (name : Text) : Text :=
  let small := name.map toSmall
  let (hasPrefix, body) := match small with
    | 'i' :: 's' :: rest => (true, rest)
    | _ => (false, small)
  let kept := body.filter fun c => c != ' ' && c != '_' && c != '-' && c.toNat < 128
  if hasPrefix && kept == ['c'] then "isc".toList else kept

/-- A name of a class: a property, a general category or a script. -/
def isClassName (name : Text) : Bool :=
  let plain := plainName name
  propertyNames.contains plain || categoryNames.contains plain || scriptNames.contains plain

/-- A property and one of its values. -/
def isValuedName (property value : Text) : Bool :=
  valuedProperties.any fun (spellings, values) =>
    spellings.contains (plainName property) && values.contains (plainName value)

end Pattern
end IdlScout

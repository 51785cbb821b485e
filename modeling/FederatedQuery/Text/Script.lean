/-
  Scripts by name.

  * `Script.find?`: the characters of the script with the given name, spelled in small letters
    without blanks and low lines; the four-letter codes are names too.
-/
import FederatedQuery.Text.Script.AtoG
import FederatedQuery.Text.Script.HtoM
import FederatedQuery.Text.Script.NtoZ

namespace FederatedQuery.Script

/-- The scripts under all their names. -/
def named : List (String × CodePoints) := [
  ("adlm", adlam), ("adlam", adlam), ("ahom", ahom), ("hluw", anatolianHieroglyphs),
  ("anatolianhieroglyphs", anatolianHieroglyphs), ("arab", arabic), ("arabic", arabic),
  ("armn", armenian), ("armenian", armenian), ("avst", avestan), ("avestan", avestan),
  ("bali", balinese), ("balinese", balinese), ("bamu", bamum), ("bamum", bamum),
  ("bass", bassaVah), ("bassavah", bassaVah), ("batk", batak), ("batak", batak),
  ("beng", bengali), ("bengali", bengali), ("bhks", bhaiksuki), ("bhaiksuki", bhaiksuki),
  ("bopo", bopomofo), ("bopomofo", bopomofo), ("brah", brahmi), ("brahmi", brahmi),
  ("brai", braille), ("braille", braille), ("bugi", buginese), ("buginese", buginese),
  ("buhd", buhid), ("buhid", buhid), ("cans", canadianAboriginal),
  ("canadianaboriginal", canadianAboriginal), ("cari", carian), ("carian", carian),
  ("aghb", caucasianAlbanian), ("caucasianalbanian", caucasianAlbanian), ("cakm", chakma),
  ("chakma", chakma), ("cham", cham), ("cher", cherokee), ("cherokee", cherokee),
  ("chrs", chorasmian), ("chorasmian", chorasmian), ("zyyy", common), ("common", common),
  ("copt", coptic), ("coptic", coptic), ("qaac", coptic), ("xsux", cuneiform),
  ("cuneiform", cuneiform), ("cprt", cypriot), ("cypriot", cypriot), ("cpmn", cyproMinoan),
  ("cyprominoan", cyproMinoan), ("cyrl", cyrillic), ("cyrillic", cyrillic), ("dsrt", deseret),
  ("deseret", deseret), ("deva", devanagari), ("devanagari", devanagari), ("diak", divesAkuru),
  ("divesakuru", divesAkuru), ("dogr", dogra), ("dogra", dogra), ("dupl", duployan),
  ("duployan", duployan), ("egyp", egyptianHieroglyphs),
  ("egyptianhieroglyphs", egyptianHieroglyphs), ("elba", elbasan), ("elbasan", elbasan),
  ("elym", elymaic), ("elymaic", elymaic), ("ethi", ethiopic), ("ethiopic", ethiopic),
  ("gara", garay), ("garay", garay), ("geor", georgian), ("georgian", georgian),
  ("glag", glagolitic), ("glagolitic", glagolitic), ("goth", gothic), ("gothic", gothic),
  ("gran", grantha), ("grantha", grantha), ("grek", greek), ("greek", greek), ("gujr", gujarati),
  ("gujarati", gujarati), ("gong", gunjalaGondi), ("gunjalagondi", gunjalaGondi),
  ("guru", gurmukhi), ("gurmukhi", gurmukhi), ("gukh", gurungKhema), ("gurungkhema", gurungKhema),
  ("hani", han), ("han", han), ("hang", hangul), ("hangul", hangul), ("rohg", hanifiRohingya),
  ("hanifirohingya", hanifiRohingya), ("hano", hanunoo), ("hanunoo", hanunoo), ("hatr", hatran),
  ("hatran", hatran), ("hebr", hebrew), ("hebrew", hebrew), ("hira", hiragana),
  ("hiragana", hiragana), ("armi", imperialAramaic), ("imperialaramaic", imperialAramaic),
  ("zinh", inherited), ("inherited", inherited), ("qaai", inherited),
  ("phli", inscriptionalPahlavi), ("inscriptionalpahlavi", inscriptionalPahlavi),
  ("prti", inscriptionalParthian), ("inscriptionalparthian", inscriptionalParthian),
  ("java", javanese), ("javanese", javanese), ("kthi", kaithi), ("kaithi", kaithi),
  ("knda", kannada), ("kannada", kannada), ("kana", katakana), ("katakana", katakana),
  ("kawi", kawi), ("kali", kayahLi), ("kayahli", kayahLi), ("khar", kharoshthi),
  ("kharoshthi", kharoshthi), ("kits", khitanSmallScript),
  ("khitansmallscript", khitanSmallScript), ("khmr", khmer), ("khmer", khmer), ("khoj", khojki),
  ("khojki", khojki), ("sind", khudawadi), ("khudawadi", khudawadi), ("krai", kiratRai),
  ("kiratrai", kiratRai), ("laoo", lao), ("lao", lao), ("latn", latin), ("latin", latin),
  ("lepc", lepcha), ("lepcha", lepcha), ("limb", limbu), ("limbu", limbu), ("lina", linearA),
  ("lineara", linearA), ("linb", linearB), ("linearb", linearB), ("lisu", lisu), ("lyci", lycian),
  ("lycian", lycian), ("lydi", lydian), ("lydian", lydian), ("mahj", mahajani),
  ("mahajani", mahajani), ("maka", makasar), ("makasar", makasar), ("mlym", malayalam),
  ("malayalam", malayalam), ("mand", mandaic), ("mandaic", mandaic), ("mani", manichaean),
  ("manichaean", manichaean), ("marc", marchen), ("marchen", marchen), ("gonm", masaramGondi),
  ("masaramgondi", masaramGondi), ("medf", medefaidrin), ("medefaidrin", medefaidrin),
  ("mtei", meeteiMayek), ("meeteimayek", meeteiMayek), ("mend", mendeKikakui),
  ("mendekikakui", mendeKikakui), ("merc", meroiticCursive), ("meroiticcursive", meroiticCursive),
  ("mero", meroiticHieroglyphs), ("meroitichieroglyphs", meroiticHieroglyphs), ("plrd", miao),
  ("miao", miao), ("modi", modi), ("mong", mongolian), ("mongolian", mongolian), ("mroo", mro),
  ("mro", mro), ("mult", multani), ("multani", multani), ("mymr", myanmar), ("myanmar", myanmar),
  ("nbat", nabataean), ("nabataean", nabataean), ("nagm", nagMundari), ("nagmundari", nagMundari),
  ("nand", nandinagari), ("nandinagari", nandinagari), ("talu", newTaiLue),
  ("newtailue", newTaiLue), ("newa", newa), ("nkoo", nko), ("nko", nko), ("nshu", nushu),
  ("nushu", nushu), ("hmnp", nyiakengPuachueHmong),
  ("nyiakengpuachuehmong", nyiakengPuachueHmong), ("ogam", ogham), ("ogham", ogham),
  ("olck", olChiki), ("olchiki", olChiki), ("onao", olOnal), ("olonal", olOnal),
  ("hung", oldHungarian), ("oldhungarian", oldHungarian), ("ital", oldItalic),
  ("olditalic", oldItalic), ("narb", oldNorthArabian), ("oldnortharabian", oldNorthArabian),
  ("perm", oldPermic), ("oldpermic", oldPermic), ("xpeo", oldPersian), ("oldpersian", oldPersian),
  ("sogo", oldSogdian), ("oldsogdian", oldSogdian), ("sarb", oldSouthArabian),
  ("oldsoutharabian", oldSouthArabian), ("orkh", oldTurkic), ("oldturkic", oldTurkic),
  ("ougr", oldUyghur), ("olduyghur", oldUyghur), ("orya", oriya), ("oriya", oriya),
  ("osge", osage), ("osage", osage), ("osma", osmanya), ("osmanya", osmanya),
  ("hmng", pahawhHmong), ("pahawhhmong", pahawhHmong), ("palm", palmyrene),
  ("palmyrene", palmyrene), ("pauc", pauCinHau), ("paucinhau", pauCinHau), ("phag", phagsPa),
  ("phagspa", phagsPa), ("phnx", phoenician), ("phoenician", phoenician),
  ("phlp", psalterPahlavi), ("psalterpahlavi", psalterPahlavi), ("rjng", rejang),
  ("rejang", rejang), ("runr", runic), ("runic", runic), ("samr", samaritan),
  ("samaritan", samaritan), ("saur", saurashtra), ("saurashtra", saurashtra), ("shrd", sharada),
  ("sharada", sharada), ("shaw", shavian), ("shavian", shavian), ("sidd", siddham),
  ("siddham", siddham), ("sgnw", signWriting), ("signwriting", signWriting), ("sinh", sinhala),
  ("sinhala", sinhala), ("sogd", sogdian), ("sogdian", sogdian), ("sora", soraSompeng),
  ("sorasompeng", soraSompeng), ("soyo", soyombo), ("soyombo", soyombo), ("sund", sundanese),
  ("sundanese", sundanese), ("sunu", sunuwar), ("sunuwar", sunuwar), ("sylo", sylotiNagri),
  ("sylotinagri", sylotiNagri), ("syrc", syriac), ("syriac", syriac), ("tglg", tagalog),
  ("tagalog", tagalog), ("tagb", tagbanwa), ("tagbanwa", tagbanwa), ("tale", taiLe),
  ("taile", taiLe), ("lana", taiTham), ("taitham", taiTham), ("tavt", taiViet),
  ("taiviet", taiViet), ("takr", takri), ("takri", takri), ("taml", tamil), ("tamil", tamil),
  ("tnsa", tangsa), ("tangsa", tangsa), ("tang", tangut), ("tangut", tangut), ("telu", telugu),
  ("telugu", telugu), ("thaa", thaana), ("thaana", thaana), ("thai", thai), ("tibt", tibetan),
  ("tibetan", tibetan), ("tfng", tifinagh), ("tifinagh", tifinagh), ("tirh", tirhuta),
  ("tirhuta", tirhuta), ("todr", todhri), ("todhri", todhri), ("toto", toto),
  ("tutg", tuluTigalari), ("tulutigalari", tuluTigalari), ("ugar", ugaritic),
  ("ugaritic", ugaritic), ("vaii", vai), ("vai", vai), ("vith", vithkuqi), ("vithkuqi", vithkuqi),
  ("wcho", wancho), ("wancho", wancho), ("wara", warangCiti), ("warangciti", warangCiti),
  ("yezi", yezidi), ("yezidi", yezidi), ("yiii", yi), ("yi", yi), ("zanb", zanabazarSquare),
  ("zanabazarsquare", zanabazarSquare)]

/-- The characters of the script called `name`. -/
def find? (name : String) : Option CodePoints := named.lookup name

end FederatedQuery.Script

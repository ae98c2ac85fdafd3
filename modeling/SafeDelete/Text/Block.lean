/-
Module: SafeDelete.Text.Block
Purpose: The named blocks of code points.
Main exports: blocks
-/
import SafeDelete.Text.Basic

namespace SafeDelete

/-- Blocks by their names, with the first code point and the last one, as Unicode 15 has them. -/
def blocks : List (String × Nat × Nat) := [
    ("BASICLATIN", 0x0, 0x7F), ("ASCII", 0x0, 0x7F), ("LATIN1SUPPLEMENT", 0x80, 0xFF),
    ("LATIN1SUP", 0x80, 0xFF), ("LATIN1", 0x80, 0xFF), ("LATINEXTENDEDA", 0x100, 0x17F),
    ("LATINEXTA", 0x100, 0x17F), ("LATINEXTENDEDB", 0x180, 0x24F), ("LATINEXTB", 0x180, 0x24F),
    ("IPAEXTENSIONS", 0x250, 0x2AF), ("IPAEXT", 0x250, 0x2AF),
    ("SPACINGMODIFIERLETTERS", 0x2B0, 0x2FF), ("MODIFIERLETTERS", 0x2B0, 0x2FF),
    ("COMBININGDIACRITICALMARKS", 0x300, 0x36F), ("DIACRITICALS", 0x300, 0x36F),
    ("GREEKANDCOPTIC", 0x370, 0x3FF), ("GREEK", 0x370, 0x3FF), ("CYRILLIC", 0x400, 0x4FF),
    ("CYRILLICSUPPLEMENT", 0x500, 0x52F), ("CYRILLICSUP", 0x500, 0x52F),
    ("CYRILLICSUPPLEMENTARY", 0x500, 0x52F), ("ARMENIAN", 0x530, 0x58F), ("HEBREW", 0x590, 0x5FF),
    ("ARABIC", 0x600, 0x6FF), ("SYRIAC", 0x700, 0x74F), ("ARABICSUPPLEMENT", 0x750, 0x77F),
    ("ARABICSUP", 0x750, 0x77F), ("THAANA", 0x780, 0x7BF), ("NKO", 0x7C0, 0x7FF),
    ("SAMARITAN", 0x800, 0x83F), ("MANDAIC", 0x840, 0x85F), ("SYRIACSUPPLEMENT", 0x860, 0x86F),
    ("SYRIACSUP", 0x860, 0x86F), ("ARABICEXTENDEDB", 0x870, 0x89F), ("ARABICEXTB", 0x870, 0x89F),
    ("ARABICEXTENDEDA", 0x8A0, 0x8FF), ("ARABICEXTA", 0x8A0, 0x8FF), ("DEVANAGARI", 0x900, 0x97F),
    ("BENGALI", 0x980, 0x9FF), ("GURMUKHI", 0xA00, 0xA7F), ("GUJARATI", 0xA80, 0xAFF),
    ("ORIYA", 0xB00, 0xB7F), ("TAMIL", 0xB80, 0xBFF), ("TELUGU", 0xC00, 0xC7F),
    ("KANNADA", 0xC80, 0xCFF), ("MALAYALAM", 0xD00, 0xD7F), ("SINHALA", 0xD80, 0xDFF),
    ("THAI", 0xE00, 0xE7F), ("LAO", 0xE80, 0xEFF), ("TIBETAN", 0xF00, 0xFFF),
    ("MYANMAR", 0x1000, 0x109F), ("GEORGIAN", 0x10A0, 0x10FF), ("HANGULJAMO", 0x1100, 0x11FF),
    ("JAMO", 0x1100, 0x11FF), ("ETHIOPIC", 0x1200, 0x137F),
    ("ETHIOPICSUPPLEMENT", 0x1380, 0x139F), ("ETHIOPICSUP", 0x1380, 0x139F),
    ("CHEROKEE", 0x13A0, 0x13FF), ("UNIFIEDCANADIANABORIGINALSYLLABICS", 0x1400, 0x167F),
    ("UCAS", 0x1400, 0x167F), ("CANADIANSYLLABICS", 0x1400, 0x167F), ("OGHAM", 0x1680, 0x169F),
    ("RUNIC", 0x16A0, 0x16FF), ("TAGALOG", 0x1700, 0x171F), ("HANUNOO", 0x1720, 0x173F),
    ("BUHID", 0x1740, 0x175F), ("TAGBANWA", 0x1760, 0x177F), ("KHMER", 0x1780, 0x17FF),
    ("MONGOLIAN", 0x1800, 0x18AF), ("UNIFIEDCANADIANABORIGINALSYLLABICSEXTENDED", 0x18B0, 0x18FF),
    ("UCASEXT", 0x18B0, 0x18FF), ("LIMBU", 0x1900, 0x194F), ("TAILE", 0x1950, 0x197F),
    ("NEWTAILUE", 0x1980, 0x19DF), ("KHMERSYMBOLS", 0x19E0, 0x19FF), ("BUGINESE", 0x1A00, 0x1A1F),
    ("TAITHAM", 0x1A20, 0x1AAF), ("COMBININGDIACRITICALMARKSEXTENDED", 0x1AB0, 0x1AFF),
    ("DIACRITICALSEXT", 0x1AB0, 0x1AFF), ("BALINESE", 0x1B00, 0x1B7F),
    ("SUNDANESE", 0x1B80, 0x1BBF), ("BATAK", 0x1BC0, 0x1BFF), ("LEPCHA", 0x1C00, 0x1C4F),
    ("OLCHIKI", 0x1C50, 0x1C7F), ("CYRILLICEXTENDEDC", 0x1C80, 0x1C8F),
    ("CYRILLICEXTC", 0x1C80, 0x1C8F), ("GEORGIANEXTENDED", 0x1C90, 0x1CBF),
    ("GEORGIANEXT", 0x1C90, 0x1CBF), ("SUNDANESESUPPLEMENT", 0x1CC0, 0x1CCF),
    ("SUNDANESESUP", 0x1CC0, 0x1CCF), ("VEDICEXTENSIONS", 0x1CD0, 0x1CFF),
    ("VEDICEXT", 0x1CD0, 0x1CFF), ("PHONETICEXTENSIONS", 0x1D00, 0x1D7F),
    ("PHONETICEXT", 0x1D00, 0x1D7F), ("PHONETICEXTENSIONSSUPPLEMENT", 0x1D80, 0x1DBF),
    ("PHONETICEXTSUP", 0x1D80, 0x1DBF), ("COMBININGDIACRITICALMARKSSUPPLEMENT", 0x1DC0, 0x1DFF),
    ("DIACRITICALSSUP", 0x1DC0, 0x1DFF), ("LATINEXTENDEDADDITIONAL", 0x1E00, 0x1EFF),
    ("LATINEXTADDITIONAL", 0x1E00, 0x1EFF), ("GREEKEXTENDED", 0x1F00, 0x1FFF),
    ("GREEKEXT", 0x1F00, 0x1FFF), ("GENERALPUNCTUATION", 0x2000, 0x206F),
    ("PUNCTUATION", 0x2000, 0x206F), ("SUPERSCRIPTSANDSUBSCRIPTS", 0x2070, 0x209F),
    ("SUPERANDSUB", 0x2070, 0x209F), ("CURRENCYSYMBOLS", 0x20A0, 0x20CF),
    ("COMBININGDIACRITICALMARKSFORSYMBOLS", 0x20D0, 0x20FF),
    ("DIACRITICALSFORSYMBOLS", 0x20D0, 0x20FF), ("COMBININGMARKSFORSYMBOLS", 0x20D0, 0x20FF),
    ("LETTERLIKESYMBOLS", 0x2100, 0x214F), ("NUMBERFORMS", 0x2150, 0x218F),
    ("ARROWS", 0x2190, 0x21FF), ("MATHEMATICALOPERATORS", 0x2200, 0x22FF),
    ("MATHOPERATORS", 0x2200, 0x22FF), ("MISCELLANEOUSTECHNICAL", 0x2300, 0x23FF),
    ("MISCTECHNICAL", 0x2300, 0x23FF), ("CONTROLPICTURES", 0x2400, 0x243F),
    ("OPTICALCHARACTERRECOGNITION", 0x2440, 0x245F), ("OCR", 0x2440, 0x245F),
    ("ENCLOSEDALPHANUMERICS", 0x2460, 0x24FF), ("ENCLOSEDALPHANUM", 0x2460, 0x24FF),
    ("BOXDRAWING", 0x2500, 0x257F), ("BLOCKELEMENTS", 0x2580, 0x259F),
    ("GEOMETRICSHAPES", 0x25A0, 0x25FF), ("MISCELLANEOUSSYMBOLS", 0x2600, 0x26FF),
    ("MISCSYMBOLS", 0x2600, 0x26FF), ("DINGBATS", 0x2700, 0x27BF),
    ("MISCELLANEOUSMATHEMATICALSYMBOLSA", 0x27C0, 0x27EF), ("MISCMATHSYMBOLSA", 0x27C0, 0x27EF),
    ("SUPPLEMENTALARROWSA", 0x27F0, 0x27FF), ("SUPARROWSA", 0x27F0, 0x27FF),
    ("BRAILLEPATTERNS", 0x2800, 0x28FF), ("BRAILLE", 0x2800, 0x28FF),
    ("SUPPLEMENTALARROWSB", 0x2900, 0x297F), ("SUPARROWSB", 0x2900, 0x297F),
    ("MISCELLANEOUSMATHEMATICALSYMBOLSB", 0x2980, 0x29FF), ("MISCMATHSYMBOLSB", 0x2980, 0x29FF),
    ("SUPPLEMENTALMATHEMATICALOPERATORS", 0x2A00, 0x2AFF), ("SUPMATHOPERATORS", 0x2A00, 0x2AFF),
    ("MISCELLANEOUSSYMBOLSANDARROWS", 0x2B00, 0x2BFF), ("MISCARROWS", 0x2B00, 0x2BFF),
    ("GLAGOLITIC", 0x2C00, 0x2C5F), ("LATINEXTENDEDC", 0x2C60, 0x2C7F),
    ("LATINEXTC", 0x2C60, 0x2C7F), ("COPTIC", 0x2C80, 0x2CFF),
    ("GEORGIANSUPPLEMENT", 0x2D00, 0x2D2F), ("GEORGIANSUP", 0x2D00, 0x2D2F),
    ("TIFINAGH", 0x2D30, 0x2D7F), ("ETHIOPICEXTENDED", 0x2D80, 0x2DDF),
    ("ETHIOPICEXT", 0x2D80, 0x2DDF), ("CYRILLICEXTENDEDA", 0x2DE0, 0x2DFF),
    ("CYRILLICEXTA", 0x2DE0, 0x2DFF), ("SUPPLEMENTALPUNCTUATION", 0x2E00, 0x2E7F),
    ("SUPPUNCTUATION", 0x2E00, 0x2E7F), ("CJKRADICALSSUPPLEMENT", 0x2E80, 0x2EFF),
    ("CJKRADICALSSUP", 0x2E80, 0x2EFF), ("KANGXIRADICALS", 0x2F00, 0x2FDF),
    ("KANGXI", 0x2F00, 0x2FDF), ("IDEOGRAPHICDESCRIPTIONCHARACTERS", 0x2FF0, 0x2FFF),
    ("IDC", 0x2FF0, 0x2FFF), ("CJKSYMBOLSANDPUNCTUATION", 0x3000, 0x303F),
    ("CJKSYMBOLS", 0x3000, 0x303F), ("HIRAGANA", 0x3040, 0x309F), ("KATAKANA", 0x30A0, 0x30FF),
    ("BOPOMOFO", 0x3100, 0x312F), ("HANGULCOMPATIBILITYJAMO", 0x3130, 0x318F),
    ("COMPATJAMO", 0x3130, 0x318F), ("KANBUN", 0x3190, 0x319F),
    ("BOPOMOFOEXTENDED", 0x31A0, 0x31BF), ("BOPOMOFOEXT", 0x31A0, 0x31BF),
    ("CJKSTROKES", 0x31C0, 0x31EF), ("KATAKANAPHONETICEXTENSIONS", 0x31F0, 0x31FF),
    ("KATAKANAEXT", 0x31F0, 0x31FF), ("ENCLOSEDCJKLETTERSANDMONTHS", 0x3200, 0x32FF),
    ("ENCLOSEDCJK", 0x3200, 0x32FF), ("CJKCOMPATIBILITY", 0x3300, 0x33FF),
    ("CJKCOMPAT", 0x3300, 0x33FF), ("CJKUNIFIEDIDEOGRAPHSEXTENSIONA", 0x3400, 0x4DBF),
    ("CJKEXTA", 0x3400, 0x4DBF), ("YIJINGHEXAGRAMSYMBOLS", 0x4DC0, 0x4DFF),
    ("YIJING", 0x4DC0, 0x4DFF), ("CJKUNIFIEDIDEOGRAPHS", 0x4E00, 0x9FFF), ("CJK", 0x4E00, 0x9FFF),
    ("YISYLLABLES", 0xA000, 0xA48F), ("YIRADICALS", 0xA490, 0xA4CF), ("LISU", 0xA4D0, 0xA4FF),
    ("VAI", 0xA500, 0xA63F), ("CYRILLICEXTENDEDB", 0xA640, 0xA69F),
    ("CYRILLICEXTB", 0xA640, 0xA69F), ("BAMUM", 0xA6A0, 0xA6FF),
    ("MODIFIERTONELETTERS", 0xA700, 0xA71F), ("LATINEXTENDEDD", 0xA720, 0xA7FF),
    ("LATINEXTD", 0xA720, 0xA7FF), ("SYLOTINAGRI", 0xA800, 0xA82F),
    ("COMMONINDICNUMBERFORMS", 0xA830, 0xA83F), ("INDICNUMBERFORMS", 0xA830, 0xA83F),
    ("PHAGSPA", 0xA840, 0xA87F), ("SAURASHTRA", 0xA880, 0xA8DF),
    ("DEVANAGARIEXTENDED", 0xA8E0, 0xA8FF), ("DEVANAGARIEXT", 0xA8E0, 0xA8FF),
    ("KAYAHLI", 0xA900, 0xA92F), ("REJANG", 0xA930, 0xA95F),
    ("HANGULJAMOEXTENDEDA", 0xA960, 0xA97F), ("JAMOEXTA", 0xA960, 0xA97F),
    ("JAVANESE", 0xA980, 0xA9DF), ("MYANMAREXTENDEDB", 0xA9E0, 0xA9FF),
    ("MYANMAREXTB", 0xA9E0, 0xA9FF), ("CHAM", 0xAA00, 0xAA5F),
    ("MYANMAREXTENDEDA", 0xAA60, 0xAA7F), ("MYANMAREXTA", 0xAA60, 0xAA7F),
    ("TAIVIET", 0xAA80, 0xAADF), ("MEETEIMAYEKEXTENSIONS", 0xAAE0, 0xAAFF),
    ("MEETEIMAYEKEXT", 0xAAE0, 0xAAFF), ("ETHIOPICEXTENDEDA", 0xAB00, 0xAB2F),
    ("ETHIOPICEXTA", 0xAB00, 0xAB2F), ("LATINEXTENDEDE", 0xAB30, 0xAB6F),
    ("LATINEXTE", 0xAB30, 0xAB6F), ("CHEROKEESUPPLEMENT", 0xAB70, 0xABBF),
    ("CHEROKEESUP", 0xAB70, 0xABBF), ("MEETEIMAYEK", 0xABC0, 0xABFF),
    ("HANGULSYLLABLES", 0xAC00, 0xD7AF), ("HANGUL", 0xAC00, 0xD7AF),
    ("HANGULJAMOEXTENDEDB", 0xD7B0, 0xD7FF), ("JAMOEXTB", 0xD7B0, 0xD7FF),
    ("HIGHSURROGATES", 0xD800, 0xDB7F), ("HIGHPRIVATEUSESURROGATES", 0xDB80, 0xDBFF),
    ("HIGHPUSURROGATES", 0xDB80, 0xDBFF), ("LOWSURROGATES", 0xDC00, 0xDFFF),
    ("PRIVATEUSEAREA", 0xE000, 0xF8FF), ("PUA", 0xE000, 0xF8FF), ("PRIVATEUSE", 0xE000, 0xF8FF),
    ("CJKCOMPATIBILITYIDEOGRAPHS", 0xF900, 0xFAFF), ("CJKCOMPATIDEOGRAPHS", 0xF900, 0xFAFF),
    ("ALPHABETICPRESENTATIONFORMS", 0xFB00, 0xFB4F), ("ALPHABETICPF", 0xFB00, 0xFB4F),
    ("ARABICPRESENTATIONFORMSA", 0xFB50, 0xFDFF), ("ARABICPFA", 0xFB50, 0xFDFF),
    ("VARIATIONSELECTORS", 0xFE00, 0xFE0F), ("VS", 0xFE00, 0xFE0F),
    ("VERTICALFORMS", 0xFE10, 0xFE1F), ("COMBININGHALFMARKS", 0xFE20, 0xFE2F),
    ("HALFMARKS", 0xFE20, 0xFE2F), ("CJKCOMPATIBILITYFORMS", 0xFE30, 0xFE4F),
    ("CJKCOMPATFORMS", 0xFE30, 0xFE4F), ("SMALLFORMVARIANTS", 0xFE50, 0xFE6F),
    ("SMALLFORMS", 0xFE50, 0xFE6F), ("ARABICPRESENTATIONFORMSB", 0xFE70, 0xFEFF),
    ("ARABICPFB", 0xFE70, 0xFEFF), ("HALFWIDTHANDFULLWIDTHFORMS", 0xFF00, 0xFFEF),
    ("HALFANDFULLFORMS", 0xFF00, 0xFFEF), ("SPECIALS", 0xFFF0, 0xFFFF),
    ("LINEARBSYLLABARY", 0x10000, 0x1007F), ("LINEARBIDEOGRAMS", 0x10080, 0x100FF),
    ("AEGEANNUMBERS", 0x10100, 0x1013F), ("ANCIENTGREEKNUMBERS", 0x10140, 0x1018F),
    ("ANCIENTSYMBOLS", 0x10190, 0x101CF), ("PHAISTOSDISC", 0x101D0, 0x101FF),
    ("PHAISTOS", 0x101D0, 0x101FF), ("LYCIAN", 0x10280, 0x1029F), ("CARIAN", 0x102A0, 0x102DF),
    ("COPTICEPACTNUMBERS", 0x102E0, 0x102FF), ("OLDITALIC", 0x10300, 0x1032F),
    ("GOTHIC", 0x10330, 0x1034F), ("OLDPERMIC", 0x10350, 0x1037F), ("UGARITIC", 0x10380, 0x1039F),
    ("OLDPERSIAN", 0x103A0, 0x103DF), ("DESERET", 0x10400, 0x1044F),
    ("SHAVIAN", 0x10450, 0x1047F), ("OSMANYA", 0x10480, 0x104AF), ("OSAGE", 0x104B0, 0x104FF),
    ("ELBASAN", 0x10500, 0x1052F), ("CAUCASIANALBANIAN", 0x10530, 0x1056F),
    ("VITHKUQI", 0x10570, 0x105BF), ("LINEARA", 0x10600, 0x1077F),
    ("LATINEXTENDEDF", 0x10780, 0x107BF), ("LATINEXTF", 0x10780, 0x107BF),
    ("CYPRIOTSYLLABARY", 0x10800, 0x1083F), ("IMPERIALARAMAIC", 0x10840, 0x1085F),
    ("PALMYRENE", 0x10860, 0x1087F), ("NABATAEAN", 0x10880, 0x108AF),
    ("HATRAN", 0x108E0, 0x108FF), ("PHOENICIAN", 0x10900, 0x1091F), ("LYDIAN", 0x10920, 0x1093F),
    ("MEROITICHIEROGLYPHS", 0x10980, 0x1099F), ("MEROITICCURSIVE", 0x109A0, 0x109FF),
    ("KHAROSHTHI", 0x10A00, 0x10A5F), ("OLDSOUTHARABIAN", 0x10A60, 0x10A7F),
    ("OLDNORTHARABIAN", 0x10A80, 0x10A9F), ("MANICHAEAN", 0x10AC0, 0x10AFF),
    ("AVESTAN", 0x10B00, 0x10B3F), ("INSCRIPTIONALPARTHIAN", 0x10B40, 0x10B5F),
    ("INSCRIPTIONALPAHLAVI", 0x10B60, 0x10B7F), ("PSALTERPAHLAVI", 0x10B80, 0x10BAF),
    ("OLDTURKIC", 0x10C00, 0x10C4F), ("OLDHUNGARIAN", 0x10C80, 0x10CFF),
    ("HANIFIROHINGYA", 0x10D00, 0x10D3F), ("RUMINUMERALSYMBOLS", 0x10E60, 0x10E7F),
    ("RUMI", 0x10E60, 0x10E7F), ("YEZIDI", 0x10E80, 0x10EBF),
    ("ARABICEXTENDEDC", 0x10EC0, 0x10EFF), ("ARABICEXTC", 0x10EC0, 0x10EFF),
    ("OLDSOGDIAN", 0x10F00, 0x10F2F), ("SOGDIAN", 0x10F30, 0x10F6F),
    ("OLDUYGHUR", 0x10F70, 0x10FAF), ("CHORASMIAN", 0x10FB0, 0x10FDF),
    ("ELYMAIC", 0x10FE0, 0x10FFF), ("BRAHMI", 0x11000, 0x1107F), ("KAITHI", 0x11080, 0x110CF),
    ("SORASOMPENG", 0x110D0, 0x110FF), ("CHAKMA", 0x11100, 0x1114F),
    ("MAHAJANI", 0x11150, 0x1117F), ("SHARADA", 0x11180, 0x111DF),
    ("SINHALAARCHAICNUMBERS", 0x111E0, 0x111FF), ("KHOJKI", 0x11200, 0x1124F),
    ("MULTANI", 0x11280, 0x112AF), ("KHUDAWADI", 0x112B0, 0x112FF), ("GRANTHA", 0x11300, 0x1137F),
    ("NEWA", 0x11400, 0x1147F), ("TIRHUTA", 0x11480, 0x114DF), ("SIDDHAM", 0x11580, 0x115FF),
    ("MODI", 0x11600, 0x1165F), ("MONGOLIANSUPPLEMENT", 0x11660, 0x1167F),
    ("MONGOLIANSUP", 0x11660, 0x1167F), ("TAKRI", 0x11680, 0x116CF), ("AHOM", 0x11700, 0x1174F),
    ("DOGRA", 0x11800, 0x1184F), ("WARANGCITI", 0x118A0, 0x118FF),
    ("DIVESAKURU", 0x11900, 0x1195F), ("NANDINAGARI", 0x119A0, 0x119FF),
    ("ZANABAZARSQUARE", 0x11A00, 0x11A4F), ("SOYOMBO", 0x11A50, 0x11AAF),
    ("UNIFIEDCANADIANABORIGINALSYLLABICSEXTENDEDA", 0x11AB0, 0x11ABF),
    ("UCASEXTA", 0x11AB0, 0x11ABF), ("PAUCINHAU", 0x11AC0, 0x11AFF),
    ("DEVANAGARIEXTENDEDA", 0x11B00, 0x11B5F), ("DEVANAGARIEXTA", 0x11B00, 0x11B5F),
    ("BHAIKSUKI", 0x11C00, 0x11C6F), ("MARCHEN", 0x11C70, 0x11CBF),
    ("MASARAMGONDI", 0x11D00, 0x11D5F), ("GUNJALAGONDI", 0x11D60, 0x11DAF),
    ("MAKASAR", 0x11EE0, 0x11EFF), ("KAWI", 0x11F00, 0x11F5F),
    ("LISUSUPPLEMENT", 0x11FB0, 0x11FBF), ("LISUSUP", 0x11FB0, 0x11FBF),
    ("TAMILSUPPLEMENT", 0x11FC0, 0x11FFF), ("TAMILSUP", 0x11FC0, 0x11FFF),
    ("CUNEIFORM", 0x12000, 0x123FF), ("CUNEIFORMNUMBERSANDPUNCTUATION", 0x12400, 0x1247F),
    ("CUNEIFORMNUMBERS", 0x12400, 0x1247F), ("EARLYDYNASTICCUNEIFORM", 0x12480, 0x1254F),
    ("CYPROMINOAN", 0x12F90, 0x12FFF), ("EGYPTIANHIEROGLYPHS", 0x13000, 0x1342F),
    ("EGYPTIANHIEROGLYPHFORMATCONTROLS", 0x13430, 0x1345F),
    ("ANATOLIANHIEROGLYPHS", 0x14400, 0x1467F), ("BAMUMSUPPLEMENT", 0x16800, 0x16A3F),
    ("BAMUMSUP", 0x16800, 0x16A3F), ("MRO", 0x16A40, 0x16A6F), ("TANGSA", 0x16A70, 0x16ACF),
    ("BASSAVAH", 0x16AD0, 0x16AFF), ("PAHAWHHMONG", 0x16B00, 0x16B8F),
    ("MEDEFAIDRIN", 0x16E40, 0x16E9F), ("MIAO", 0x16F00, 0x16F9F),
    ("IDEOGRAPHICSYMBOLSANDPUNCTUATION", 0x16FE0, 0x16FFF),
    ("IDEOGRAPHICSYMBOLS", 0x16FE0, 0x16FFF), ("TANGUT", 0x17000, 0x187FF),
    ("TANGUTCOMPONENTS", 0x18800, 0x18AFF), ("KHITANSMALLSCRIPT", 0x18B00, 0x18CFF),
    ("TANGUTSUPPLEMENT", 0x18D00, 0x18D7F), ("TANGUTSUP", 0x18D00, 0x18D7F),
    ("KANAEXTENDEDB", 0x1AFF0, 0x1AFFF), ("KANAEXTB", 0x1AFF0, 0x1AFFF),
    ("KANASUPPLEMENT", 0x1B000, 0x1B0FF), ("KANASUP", 0x1B000, 0x1B0FF),
    ("KANAEXTENDEDA", 0x1B100, 0x1B12F), ("KANAEXTA", 0x1B100, 0x1B12F),
    ("SMALLKANAEXTENSION", 0x1B130, 0x1B16F), ("SMALLKANAEXT", 0x1B130, 0x1B16F),
    ("NUSHU", 0x1B170, 0x1B2FF), ("DUPLOYAN", 0x1BC00, 0x1BC9F),
    ("SHORTHANDFORMATCONTROLS", 0x1BCA0, 0x1BCAF), ("ZNAMENNYMUSICALNOTATION", 0x1CF00, 0x1CFCF),
    ("ZNAMENNYMUSIC", 0x1CF00, 0x1CFCF), ("BYZANTINEMUSICALSYMBOLS", 0x1D000, 0x1D0FF),
    ("BYZANTINEMUSIC", 0x1D000, 0x1D0FF), ("MUSICALSYMBOLS", 0x1D100, 0x1D1FF),
    ("MUSIC", 0x1D100, 0x1D1FF), ("ANCIENTGREEKMUSICALNOTATION", 0x1D200, 0x1D24F),
    ("ANCIENTGREEKMUSIC", 0x1D200, 0x1D24F), ("KAKTOVIKNUMERALS", 0x1D2C0, 0x1D2DF),
    ("MAYANNUMERALS", 0x1D2E0, 0x1D2FF), ("TAIXUANJINGSYMBOLS", 0x1D300, 0x1D35F),
    ("TAIXUANJING", 0x1D300, 0x1D35F), ("COUNTINGRODNUMERALS", 0x1D360, 0x1D37F),
    ("COUNTINGROD", 0x1D360, 0x1D37F), ("MATHEMATICALALPHANUMERICSYMBOLS", 0x1D400, 0x1D7FF),
    ("MATHALPHANUM", 0x1D400, 0x1D7FF), ("SUTTONSIGNWRITING", 0x1D800, 0x1DAAF),
    ("LATINEXTENDEDG", 0x1DF00, 0x1DFFF), ("LATINEXTG", 0x1DF00, 0x1DFFF),
    ("GLAGOLITICSUPPLEMENT", 0x1E000, 0x1E02F), ("GLAGOLITICSUP", 0x1E000, 0x1E02F),
    ("CYRILLICEXTENDEDD", 0x1E030, 0x1E08F), ("CYRILLICEXTD", 0x1E030, 0x1E08F),
    ("NYIAKENGPUACHUEHMONG", 0x1E100, 0x1E14F), ("TOTO", 0x1E290, 0x1E2BF),
    ("WANCHO", 0x1E2C0, 0x1E2FF), ("NAGMUNDARI", 0x1E4D0, 0x1E4FF),
    ("ETHIOPICEXTENDEDB", 0x1E7E0, 0x1E7FF), ("ETHIOPICEXTB", 0x1E7E0, 0x1E7FF),
    ("MENDEKIKAKUI", 0x1E800, 0x1E8DF), ("ADLAM", 0x1E900, 0x1E95F),
    ("INDICSIYAQNUMBERS", 0x1EC70, 0x1ECBF), ("OTTOMANSIYAQNUMBERS", 0x1ED00, 0x1ED4F),
    ("ARABICMATHEMATICALALPHABETICSYMBOLS", 0x1EE00, 0x1EEFF), ("ARABICMATH", 0x1EE00, 0x1EEFF),
    ("MAHJONGTILES", 0x1F000, 0x1F02F), ("MAHJONG", 0x1F000, 0x1F02F),
    ("DOMINOTILES", 0x1F030, 0x1F09F), ("DOMINO", 0x1F030, 0x1F09F),
    ("PLAYINGCARDS", 0x1F0A0, 0x1F0FF), ("ENCLOSEDALPHANUMERICSUPPLEMENT", 0x1F100, 0x1F1FF),
    ("ENCLOSEDALPHANUMSUP", 0x1F100, 0x1F1FF),
    ("ENCLOSEDIDEOGRAPHICSUPPLEMENT", 0x1F200, 0x1F2FF),
    ("ENCLOSEDIDEOGRAPHICSUP", 0x1F200, 0x1F2FF),
    ("MISCELLANEOUSSYMBOLSANDPICTOGRAPHS", 0x1F300, 0x1F5FF),
    ("MISCPICTOGRAPHS", 0x1F300, 0x1F5FF), ("EMOTICONS", 0x1F600, 0x1F64F),
    ("ORNAMENTALDINGBATS", 0x1F650, 0x1F67F), ("TRANSPORTANDMAPSYMBOLS", 0x1F680, 0x1F6FF),
    ("TRANSPORTANDMAP", 0x1F680, 0x1F6FF), ("ALCHEMICALSYMBOLS", 0x1F700, 0x1F77F),
    ("ALCHEMICAL", 0x1F700, 0x1F77F), ("GEOMETRICSHAPESEXTENDED", 0x1F780, 0x1F7FF),
    ("GEOMETRICSHAPESEXT", 0x1F780, 0x1F7FF), ("SUPPLEMENTALARROWSC", 0x1F800, 0x1F8FF),
    ("SUPARROWSC", 0x1F800, 0x1F8FF), ("SUPPLEMENTALSYMBOLSANDPICTOGRAPHS", 0x1F900, 0x1F9FF),
    ("SUPSYMBOLSANDPICTOGRAPHS", 0x1F900, 0x1F9FF), ("CHESSSYMBOLS", 0x1FA00, 0x1FA6F),
    ("SYMBOLSANDPICTOGRAPHSEXTENDEDA", 0x1FA70, 0x1FAFF),
    ("SYMBOLSANDPICTOGRAPHSEXTA", 0x1FA70, 0x1FAFF),
    ("SYMBOLSFORLEGACYCOMPUTING", 0x1FB00, 0x1FBFF),
    ("CJKUNIFIEDIDEOGRAPHSEXTENSIONB", 0x20000, 0x2A6DF), ("CJKEXTB", 0x20000, 0x2A6DF),
    ("CJKUNIFIEDIDEOGRAPHSEXTENSIONC", 0x2A700, 0x2B73F), ("CJKEXTC", 0x2A700, 0x2B73F),
    ("CJKUNIFIEDIDEOGRAPHSEXTENSIOND", 0x2B740, 0x2B81F), ("CJKEXTD", 0x2B740, 0x2B81F),
    ("CJKUNIFIEDIDEOGRAPHSEXTENSIONE", 0x2B820, 0x2CEAF), ("CJKEXTE", 0x2B820, 0x2CEAF),
    ("CJKUNIFIEDIDEOGRAPHSEXTENSIONF", 0x2CEB0, 0x2EBEF), ("CJKEXTF", 0x2CEB0, 0x2EBEF),
    ("CJKCOMPATIBILITYIDEOGRAPHSSUPPLEMENT", 0x2F800, 0x2FA1F),
    ("CJKCOMPATIDEOGRAPHSSUP", 0x2F800, 0x2FA1F),
    ("CJKUNIFIEDIDEOGRAPHSEXTENSIONG", 0x30000, 0x3134F), ("CJKEXTG", 0x30000, 0x3134F),
    ("CJKUNIFIEDIDEOGRAPHSEXTENSIONH", 0x31350, 0x323AF), ("CJKEXTH", 0x31350, 0x323AF),
    ("TAGS", 0xE0000, 0xE007F), ("VARIATIONSELECTORSSUPPLEMENT", 0xE0100, 0xE01EF),
    ("VSSUP", 0xE0100, 0xE01EF), ("SUPPLEMENTARYPRIVATEUSEAREAA", 0xF0000, 0xFFFFF),
    ("SUPPUAA", 0xF0000, 0xFFFFF), ("SUPPLEMENTARYPRIVATEUSEAREAB", 0x100000, 0x10FFFF),
    ("SUPPUAB", 0x100000, 0x10FFFF)]

end SafeDelete

import ScannerAlphabet.Unicode.Script.Shared
import ScannerAlphabet.Unicode.Script.European
import ScannerAlphabet.Unicode.Script.WestAsian
import ScannerAlphabet.Unicode.Script.SouthAsian
import ScannerAlphabet.Unicode.Script.SoutheastAsian
import ScannerAlphabet.Unicode.Script.EastAsian
import ScannerAlphabet.Unicode.Script.AfricanAmerican

/-!
# Scripts

Every character belongs to one script. A script has a long name and a code of four letters, and
some have an older code; each of them can stand alone or after a qualifier. Scripts that lie
wholly beyond `CodePoint.last` have a name and no code points here.
-/
namespace ScannerAlphabet.Unicode.Script

/-- All scripts. -/
def values : List PropertyValue :=
  [common, inherited, latin, greek, cyrillic, armenian, georgian, coptic, glagolitic, gothic,
   ogham, runic, oldItalic, linearB, cypriot, shavian, carian, lycian, lydian, arabic, hebrew,
   syriac, thaana, samaritan, mandaic, imperialAramaic, phoenician, avestan,
   inscriptionalPahlavi, inscriptionalParthian, oldSouthArabian, oldPersian, cuneiform,
   ugaritic, devanagari, bengali, gurmukhi, gujarati, oriya, tamil, telugu, kannada, malayalam,
   sinhala, tibetan, limbu, lepcha, sylotiNagri, saurashtra, meeteiMayek, olChiki, kaithi,
   brahmi, kharoshthi, thai, lao, khmer, myanmar, taiLe, newTaiLue, taiTham, taiViet, kayahLi,
   cham, tagalog, hanunoo, buhid, tagbanwa, buginese, balinese, sundanese, javanese, rejang,
   batak, han, hiragana, katakana, bopomofo, hangul, yi, lisu, mongolian, phagsPa, oldTurkic,
   ethiopic, osmanya, tifinagh, nko, vai, bamum, egyptianHieroglyphs, cherokee,
   canadianAboriginal, deseret, braille]

/-- The names under which a script can be found besides its own. -/
def aliasesOf (v : PropertyValue) : List (String × String) :=
  (v.synonyms ++ (v.name :: v.synonyms).flatMap fun n => ["sc=" ++ n, "script=" ++ n]).map
    (·, v.name)

/-- All aliases of scripts. -/
def aliases : List (String × String) :=
  values.flatMap aliasesOf

end ScannerAlphabet.Unicode.Script

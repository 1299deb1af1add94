import PeriodText.Locale

/-!
# Built-in locales

The month names of four languages.
-/

set_option autoImplicit false

namespace PeriodText

namespace Locale

/-- The months in English. -/
def english : Locale where
  name := "english"
  months := ["January", "February", "March", "April", "May", "June", "July", "August",
    "September", "October", "November", "December"]
  abbreviations := ["Jan", "Feb", "Mar", "Apr", "May", "Jun", "Jul", "Aug", "Sep", "Oct", "Nov",
    "Dec"]
  months_length := rfl
  abbreviations_length := rfl

/-- The months in French. -/
def french : Locale where
  name := "french"
  months := ["janvier", "février", "mars", "avril", "mai", "juin", "juillet", "août",
    "septembre", "octobre", "novembre", "décembre"]
  abbreviations := ["janv", "févr", "mars", "avr", "mai", "juin", "juil", "août", "sept", "oct",
    "nov", "déc"]
  months_length := rfl
  abbreviations_length := rfl

/-- The months in German. -/
def german : Locale where
  name := "german"
  months := ["Januar", "Februar", "März", "April", "Mai", "Juni", "Juli", "August", "September",
    "Oktober", "November", "Dezember"]
  abbreviations := ["Jan", "Feb", "Mär", "Apr", "Mai", "Jun", "Jul", "Aug", "Sep", "Okt", "Nov",
    "Dez"]
  months_length := rfl
  abbreviations_length := rfl

/-- The months in Spanish. -/
def spanish : Locale where
  name := "spanish"
  months := ["enero", "febrero", "marzo", "abril", "mayo", "junio", "julio", "agosto",
    "septiembre", "octubre", "noviembre", "diciembre"]
  abbreviations := ["ene", "feb", "mar", "abr", "may", "jun", "jul", "ago", "sep", "oct", "nov",
    "dic"]
  months_length := rfl
  abbreviations_length := rfl

end Locale

end PeriodText

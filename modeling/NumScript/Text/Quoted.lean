import NumScript.Text.Combining
import NumScript.Text.Unprintable

/-!
# Quoted text

Two ways to write a text between quotation marks so that it stays on one line and can be read back:

* the INSPECTION form, for people: unprintable and combining characters are written by their code
  point, so that every character can be told from its neighbours (`inspectString`, `inspectChar`);
* the JSON form, for programs: only what the format forbids is escaped (`jsonString`).
-/

namespace NumScript

/-! ## 1. The inspection form -/

/-- The code point of a character in lower-case hexadecimal digits. -/
def hexCode (c : Char) : String := String.ofList (Nat.toDigits 16 c.toNat)

/-- One character between marks of the given kind. The mark itself, the backslash and four control
    characters have short escapes. -/
def inspectEscape (mark c : Char) : String :=
  if c = '\x00' then "\\0"
  else if c = '\t' then "\\t"
  else if c = '\r' then "\\r"
  else if c = '\n' then "\\n"
  else if c = '\\' then "\\\\"
  else if c = mark then String.ofList ['\\', c]
  else if isCombining c || isUnprintable c then "\\u\x7b" ++ hexCode c ++ "\x7d"
  else String.singleton c

/-- A text between double quotation marks. -/
def inspectString (text : String) : String :=
  "\"" ++ String.join (text.toList.map (inspectEscape '\x22')) ++ "\""

/-- A character between single quotation marks. -/
def inspectChar (c : Char) : String := "'" ++ inspectEscape '\x27' c ++ "'"

/-! ## 2. The JSON form -/

/-- One character of a JSON string. Control characters without a short escape take four hexadecimal
    digits, of which the first two are zero. -/
def jsonEscape (c : Char) : String :=
  if c = '\x22' then "\\\""
  else if c = '\\' then "\\\\"
  else if c = '\x08' then "\\b"
  else if c = '\x0c' then "\\f"
  else if c = '\n' then "\\n"
  else if c = '\r' then "\\r"
  else if c = '\t' then "\\t"
  else if c.toNat < 0x10 then "\\u000" ++ hexCode c
  else if c.toNat < 0x20 then "\\u00" ++ hexCode c
  else String.singleton c

/-- A JSON string. -/
def jsonString (text : String) : String :=
  "\"" ++ String.join (text.toList.map jsonEscape) ++ "\""

end NumScript

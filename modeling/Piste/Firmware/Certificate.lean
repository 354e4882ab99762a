import Piste.Host.IoError
import Piste.Text.Blank
import Piste.Text.Utf8

/-!
# Certificates as C source

C source that defines a variable holding a certificate: either an array with one string literal for
each byte, or a pointer to one string literal for each line.
-/

namespace Piste.Firmware

/-- How the variable is defined. -/
inductive CertificateStyle where
  /-- An array, one literal for each byte, and its length. -/
  | bytes
  /-- A pointer, one literal for each line. -/
  | lines
  deriving DecidableEq, Repr

/-- Why a certificate cannot be embedded. -/
inductive CertificateError where
  | inputNotFound (path : String)
  | unreadable (path : String) (error : Host.IoError)
  | unwritable (path : String) (error : Host.IoError)
  | invalidIdentifier (name : String)
  /-- The source cannot be filled into its template, for the given cause. -/
  | template (cause : String)

/-- The cause in one line. -/
def CertificateError.message : CertificateError → String
  | inputNotFound path => "certificate not found: " ++ path
  | unreadable path error => "failed to read certificate " ++ path ++ ": " ++ error.message
  | unwritable path error => "failed to write " ++ path ++ ": " ++ error.message
  | invalidIdentifier name => s!"'{name}' is not a valid C identifier"
  | template cause => "failed to render C source: " ++ cause

/-- Whether a name is a C identifier: ASCII letters, digits and underscores, of which the first is
no digit. -/
def isIdentifier (name : String) : Bool :=
  match name.toList with
  | [] => false
  | first :: rest =>
    (first.isAlpha || first == '_') && rest.all fun c => c.isAlphanum || c == '_'

/-- A hexadecimal digit. -/
def hexDigit (n : Nat) : Char :=
  if n < 10 then Char.ofNat ('0'.toNat + n) else Char.ofNat ('a'.toNat + (n - 10))

/-- A byte inside a string literal. What is not printable ASCII, and what has a meaning of its own
in a literal, is written as an escape sequence. -/
def byteText (byte : UInt8) : List Char :=
  let n := byte.toNat
  if n = 10 then ['\\', 'n']
  else if 32 ≤ n ∧ n ≤ 126 ∧ n ≠ '"'.toNat ∧ n ≠ '\\'.toNat then [Char.ofNat n]
  else ['\\', 'x', hexDigit (n / 16), hexDigit (n % 16)]

/-- A string literal of one byte. -/
def byteLiteral (byte : UInt8) : List Char :=
  '"' :: byteText byte ++ ['"']

/-- A character of a line inside a string literal. -/
def lineChar (c : Char) : List Char :=
  if c = '\\' ∨ c = '"' then ['\\', c] else [c]

/-- A string literal of one line without the blanks at its ends, and of the end of the line. -/
def lineLiteral (line : List Char) : List Char :=
  '"' :: (Text.trim line).flatMap lineChar ++ ['\\', 'n', '"']

/-- The definition of an array of bytes and of its length. -/
def bytesSource (name : List Char) (content : List UInt8) : List Char :=
  "#include <stddef.h>\n\nconst char ".toList ++ name ++ "[] =\n".toList ++
    content.flatMap (fun byte => byteLiteral byte ++ ['\n']) ++
    ";\nconst size_t ".toList ++ name ++ "_len = sizeof(".toList ++ name ++ ") - 1;\n".toList

/-- The lines of a certificate. Blanks around it do not count. -/
def certificateLines (content : List UInt8) : List (List Char) :=
  Text.lines (Text.trim (Text.Utf8.decodeLossy content))

/-- The definition of a pointer to lines. -/
def linesSource (name : List Char) (content : List UInt8) : List Char :=
  "#include <stdio.h>\nconst char* ".toList ++ name ++ " =\n".toList ++
    ['\n'].intercalate ((certificateLines content).map lineLiteral) ++ ";\n".toList

/-- C source that defines a variable holding a certificate. -/
def certificateSource (content : List UInt8) (name : String) (style : CertificateStyle) :
    Except CertificateError String :=
  if isIdentifier name then
    .ok (String.ofList (match style with
      | .bytes => bytesSource name.toList content
      | .lines => linesSource name.toList content))
  else .error (.invalidIdentifier name)

end Piste.Firmware

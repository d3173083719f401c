import FrameFlow.Decimal.Writer
import FrameFlow.Json.Writer
import FrameFlow.Toml.Reader

/-! Writing of TOML documents as sections, each with a header and entries of one line or one
text. A text is written with as few escapes as one of the four quotings allows. -/
namespace FrameFlow.Toml

inductive Scalar where
  | text (s : String)
  | integer (n : Int64)
  | float (x : Float)
  | boolean (b : Bool)
  | emptyArray

inductive Header where
  /-- The entries before all headers. -/
  | document
  | table (path : List String)
  | item (path : List String)

structure Section where
  header : Header
  entries : List (String × Scalar)

/-- The length of the longest run of a character, given that of the run before. -/
def longestRun (c : Char) : Nat → List Char → Nat
  | run, [] => run
  | run, d :: r => if d = c then longestRun c (run + 1) r else max run (longestRun c 0 r)

/-- Whether a text needs escapes for characters other than quotes, backslashes and line ends. -/
def needsCodes (s : List Char) : Bool := s.any fun c => isControl c && c != '\n'

def upperHex4 (n : Nat) : List Char :=
  let digits := (Nat.toDigits 16 n).map Char.toUpper
  List.replicate (4 - digits.length) '0' ++ digits

/-- Whether the text stands on lines of its own. -/
def escapeChar (lines : Bool) (c : Char) : List Char :=
  if c = '\x08' then ['\\', 'b']
  else if c = '\t' then ['\\', 't']
  else if c = '\n' then if lines then ['\n'] else ['\\', 'n']
  else if c = '\x0C' then ['\\', 'f']
  else if c = '\r' then ['\\', 'r']
  else if c = '\\' then ['\\', '\\']
  else if isControl c then '\\' :: 'u' :: upperHex4 c.toNat
  else [c]

/-- Escapes a text for double quotes that allow runs of at most `most` quotes inside. -/
def escape (lines : Bool) (most : Nat) : Nat → List Char → List Char
  | _, [] => []
  | run, c :: r =>
    if c = '"' then
      if run < most then '"' :: escape lines most (run + 1) r
      else '\\' :: '"' :: escape lines most 0 r
    else escapeChar lines c ++ escape lines most 0 r

def basic (s : List Char) : List Char := '"' :: escape false 0 0 s ++ ['"']

def literal (s : List Char) : List Char := '\'' :: s ++ ['\'']

/-- A text with line ends starts on a line of its own. -/
def opening (s : List Char) : List Char := if s.contains '\n' then ['\n'] else []

def tripledBasic (s : List Char) : List Char :=
  "\"\"\"".toList ++ opening s ++ escape true 2 0 s ++ "\"\"\"".toList

def tripledLiteral (s : List Char) : List Char :=
  "'''".toList ++ opening s ++ s ++ "'''".toList

def quoteText (s : List Char) : List Char :=
  let codes := needsCodes s
  let lines := s.contains '\n'
  let backslash := s.contains '\\'
  let doubles := longestRun '"' 0 s
  let singles := longestRun '\'' 0 s
  if !codes && !backslash && doubles == 0 && !lines then basic s
  else if !codes && singles == 0 && !lines then literal s
  else if !codes && !backslash && doubles ≤ 2 then tripledBasic s
  else if !codes && singles ≤ 2 then tripledLiteral s
  else if lines then tripledBasic s
  else basic s

def writeKey (key : String) : List Char :=
  let s := key.toList
  let codes := s.any isControl
  if !s.isEmpty && s.all isBare then s
  else if !codes && !s.contains '\\' && !s.contains '"' then basic s
  else if !codes && !s.contains '\'' then literal s
  else basic s

/-- Whole numbers keep a fraction, so that they read back as floats. -/
def writeFloat (x : Float) : List Char :=
  if x.isNaN then "nan".toList
  else if x.isInf then if Decimal.isNegative x then "-inf".toList else "inf".toList
  else
    let n := Decimal.plainNumeral x
    (if n.isWhole then { n with places := some ['0'] } else n).render

def Scalar.write : Scalar → List Char
  | text s => quoteText s.toList
  | integer n => (toString n.toInt).toList
  | float x => writeFloat x
  | boolean b => (toString b).toList
  | emptyArray => ['[', ']']

def writePath (path : List String) : List Char := ['.'].intercalate (path.map writeKey)

def Header.write : Header → List Char
  | document => []
  | table path => '[' :: writePath path ++ [']', '\n']
  | item path => '[' :: '[' :: writePath path ++ [']', ']', '\n']

def writeEntry (key : String) (value : Scalar) : List Char :=
  writeKey key ++ [' ', '=', ' '] ++ value.write ++ ['\n']

def Section.write (s : Section) : List Char :=
  s.header.write ++ s.entries.flatMap fun (key, value) => writeEntry key value

/-- Sections with an empty line between them. -/
def write (sections : List Section) : String :=
  String.ofList (['\n'].intercalate (sections.map Section.write))

end FrameFlow.Toml

import PqCas.Go.Wire
import PqCas.Lib.Scan

/-!
How the Go adapter reads the answer of a web server (`doHTTP`).
-/

namespace PqCas

namespace go

section Strings

def isSpace (r : Utf8.Rune) : Bool :=
  match r with
  | .char c => Text.isWhitespace c
  | .byte _ => false

def trimSpace (s : GoString) : GoString :=
  Utf8.bytesOf (((Utf8.runes s).dropWhile isSpace).rdropWhile isSpace)

def fields (s : GoString) : List GoString :=
  (((Utf8.runes s).splitOnP isSpace).filter (· ≠ [])).map Utf8.bytesOf

def cut (sep : String) (s : GoString) : Option (GoString × GoString) :=
  Search.splitOnce (text sep) s

def hasPrefix (pre : String) (s : GoString) : Bool :=
  decide (text pre <+: s)

def isDigit (b : UInt8) : Bool :=
  0x30 ≤ b && b ≤ 0x39

/--
`fmt.Sscanf` with `%d` into a variable that is zero. What follows the digits is not looked at, and a
number that does not fit into 64 bits is not stored.
-/
def scanDecimal (s : GoString) : Int :=
  let (sign, rest) : Int × GoString := match s with
    | 0x2B :: rest => (1, rest)
    | 0x2D :: rest => (-1, rest)
    | rest => (1, rest)
  let n : Nat := (rest.takeWhile isDigit).foldl (fun n b => 10 * n + (b.toNat - 0x30)) 0
  let value := sign * n
  if -2 ^ 63 ≤ value ∧ value < 2 ^ 63 then value else 0

end Strings

def headAndBody (raw : GoString) : List GoString × GoString :=
  let (head, body) := (cut "\r\n\r\n" raw).getD (raw, [])
  (Search.splitAll (text "\r\n") head, body)

def statusOf (statusLine : GoString) : Int :=
  match (fields statusLine)[1]? with
  | some token => scanDecimal token
  | none => 0

def headerOf (line : GoString) : Option MessageField :=
  (cut ":" line).map (fun (name, value) => ⟨trimSpace name, some [trimSpace value]⟩)

/--
The first 512 bytes, which may end inside a code point.
-/
def excerptOf (body : GoString) : Option GoString :=
  let trimmed := trimSpace body
  if trimmed ≠ [] then some (trimmed.take 512) else none

/--
The request and the limited read of the answer: it fails, or there are bytes to look at.
-/
inductive Exchange where
  | failed (err : String)
  | answer (raw : GoString)

def doHTTP (exchange : Exchange) : Except String HttpOutcome :=
  match exchange with
  | .failed err => .error err
  | .answer raw =>
    match headAndBody raw with
    | ([], _) => .error "no HTTP response"
    | (statusLine :: headerLines, body) =>
      if hasPrefix "HTTP/" statusLine then
        .ok {
          status := statusOf statusLine
          headers := some (headerLines.filterMap headerOf)
          bodyExcerpt := excerptOf body
        }
      else
        .error "no HTTP response"

end go

end PqCas

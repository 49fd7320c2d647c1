import Mathlib.Data.List.Basic
import Mathlib.Algebra.Group.Int

namespace Rdk.Rtkutils

-- A Go string: its bytes.
abbrev GoString := List UInt8

-- The bytes of an ASCII literal.
def ascii (s : String) : GoString := s.toList.map fun c => c.toNat.toUInt8

-- The field numbers of an STR line.
namespace Field

def mp : Nat := 1
def id : Nat := 2
def format : Nat := 3
def formatDetails : Nat := 4
def carrierField : Nat := 5
def navsystem : Nat := 6
def network : Nat := 7
def country : Nat := 8
def latitude : Nat := 9
def longitude : Nat := 10
def nmeaBit : Nat := 11
def solution : Nat := 12
def generator : Nat := 13
def compression : Nat := 14
def auth : Nat := 15
def feeBit : Nat := 16
def bitRateField : Nat := 17
def misc : Nat := 18

end Field

-- `Stream`. A `float32` is kept as its bits.
structure Stream where
  mp : GoString
  identifier : GoString
  format : GoString
  formatDetails : GoString
  carrier : Int
  navSystem : List GoString
  network : GoString
  country : GoString
  latitude : UInt32
  longitude : UInt32
  nmea : Bool
  solution : Int
  generator : GoString
  compression : GoString
  authentication : GoString
  fee : Bool
  bitRate : Int
  misc : GoString
  deriving DecidableEq, Repr

-- `strings.Split(s, sep)` for a one-byte separator.
def splitOn (sep : UInt8) : GoString → List GoString
  | [] => [[]]
  | c :: cs =>
    if c = sep then [] :: splitOn sep cs
    else match splitOn sep cs with
      | [] => [[c]]
      | p :: ps => (c :: p) :: ps

def isDigit (c : UInt8) : Bool := 48 ≤ c && c ≤ 57

-- The value of a non-empty run of decimal digits.
def digitsValue : GoString → Option Nat
  | [] => none
  | [c] => if isDigit c then some (c.toNat - 48) else none
  | c :: cs =>
    if isDigit c then (digitsValue cs).map fun n => (c.toNat - 48) * 10 ^ cs.length + n else none

-- `strconv.Atoi` on a 64-bit platform: an optional sign, decimal digits, and a value that fits.
def atoi : GoString → Option Int
  | [] => none
  | c :: cs =>
    let (neg, digits) := if c = 45 then (true, cs) else if c = 43 then (false, cs) else (false, c :: cs)
    (digitsValue digits).bind fun n =>
      let v : Int := if neg then -n else n
      if -2 ^ 63 ≤ v ∧ v < 2 ^ 63 then some v else none

-- `strconv.ParseBool`.
def parseBool (s : GoString) : Option Bool :=
  if s = ascii "1" ∨ s = ascii "t" ∨ s = ascii "T" ∨ s = ascii "true" ∨ s = ascii "TRUE" ∨
      s = ascii "True" then some true
  else if s = ascii "0" ∨ s = ascii "f" ∨ s = ascii "F" ∨ s = ascii "false" ∨
      s = ascii "FALSE" ∨ s = ascii "False" then some false
  else none

section

-- `strconv.ParseFloat(s, 32)` followed by `float32(...)`, outside src: the bits of the result, or
-- `none` on an error.
variable (parseFloat32 : GoString → Option UInt32)

def parseStream (line : GoString) : Except GoString Stream :=
  let fields := splitOn 59 line
  let field (i : Nat) : GoString := fields.getD i []
  if fields.length < 19 then .error (ascii "missing fields at stream line: " ++ line)
  else match atoi (field Field.carrierField) with
  | none => .error (ascii "cannot parse the streams carrier in line: " ++ line)
  | some carrier =>
    let satSystems := splitOn 43 (field Field.navsystem)
    match parseFloat32 (field Field.latitude) with
    | none => .error (ascii "cannot parse the streams latitude in line: " ++ line)
    | some lat =>
      match parseFloat32 (field Field.longitude) with
      | none => .error (ascii "cannot parse the streams longitude in line: " ++ line)
      | some lon =>
        match parseBool (field Field.nmeaBit) with
        | none => .error (ascii "cannot parse the streams nmea in line: " ++ line)
        | some nmea =>
          match atoi (field Field.solution) with
          | none => .error (ascii "cannot parse the streams solution in line: " ++ line)
          | some sol =>
            .ok { mp := field Field.mp, identifier := field Field.id, format := field Field.format,
                  formatDetails := field Field.formatDetails, carrier := carrier,
                  navSystem := satSystems, network := field Field.network,
                  country := field Field.country, latitude := lat, longitude := lon, nmea := nmea,
                  solution := sol, generator := field Field.generator,
                  compression := field Field.compression, authentication := field Field.auth,
                  fee := field Field.feeBit == ascii "Y",
                  bitRate := (atoi (field Field.bitRateField)).getD 0,
                  misc := field Field.misc }

-- The loop of `ParseSourcetable` over the scanned lines.
def parseLines (url : GoString) : List GoString → Except GoString (List Stream)
  | [] => .ok []
  | ln :: rest =>
    if ln.head? = some 35 ∨ ln.head? = some 42 then parseLines url rest
    else
      let first := (splitOn 59 ln).headD []
      if first = ascii "CAS" ∨ first = ascii "NET" then parseLines url rest
      else if first = ascii "STR" then
        match parseStream parseFloat32 ln with
        | .error e => .error (ascii "error while parsing stream: " ++ e)
        | .ok str => (parseLines url rest).map (str :: ·)
      else if first = ascii "ENDSOURCETABLE" then .ok []
      else .error (url ++ ascii ": illegal sourcetable line: '" ++ ln ++ ascii "'")

end

-- `bufio.MaxScanTokenSize`, the buffer limit of a default `bufio.Scanner`.
def maxScanTokenSize : Nat := 64 * 1024

-- `dropCR` of `bufio.ScanLines`.
def dropCR (ln : GoString) : GoString :=
  if ln.getLast? = some 13 then ln.dropLast else ln

-- The lines a default `bufio.Scanner` with `ScanLines` yields, from the input split at each
-- newline; `true` when it stopped with `ErrTooLong` on a line that does not fit its buffer with
-- its newline. A last line without a newline has to fit on its own, before the reader reports
-- the end of the input.
def scanSegments : List GoString → List GoString × Bool
  | [] => ([], false)
  | [last] =>
    if last = [] then ([], false)
    else if maxScanTokenSize ≤ last.length then ([], true)
    else ([dropCR last], false)
  | seg :: rest =>
    if maxScanTokenSize < seg.length + 1 then ([], true)
    else ((scanSegments rest).1.cons (dropCR seg), (scanSegments rest).2)

def scanLines (input : GoString) : List GoString × Bool :=
  scanSegments (splitOn 10 input)

-- `ParseSourcetable` on the body of the caster's response. The scanner's error is not checked.
def parseSourcetable (parseFloat32 : GoString → Option UInt32) (url body : GoString) :
    Except GoString (List Stream) :=
  parseLines parseFloat32 url (scanLines body).1

end Rdk.Rtkutils

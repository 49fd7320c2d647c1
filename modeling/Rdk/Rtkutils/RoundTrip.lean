import Mathlib.Tactic.Ring
import Rdk.Go.Arith
import Rdk.Rtkutils.Sourcetable

namespace Rdk.Rtkutils

open Rdk.Go (bitLength)

section Split

variable {sep : UInt8}

theorem splitOn_of_not_mem {s : GoString} (hs : sep ∉ s) : splitOn sep s = [s] := by
  induction s with
  | nil => rfl
  | cons c cs ih =>
    have hc : c ≠ sep := fun h => hs (h ▸ List.mem_cons_self c cs)
    rw [splitOn, if_neg hc, ih fun h => hs (List.mem_cons_of_mem c h)]

-- Go's `strings.Join` with a one-byte separator, as a caster writes fields.
def joinOn (sep : UInt8) : List GoString → GoString
  | [] => []
  | [x] => x
  | x :: y :: ys => x ++ sep :: joinOn sep (y :: ys)

theorem splitOn_joinOn {l : List GoString} (hl : l ≠ []) (hsep : ∀ x ∈ l, sep ∉ x) :
    splitOn sep (joinOn sep l) = l := by
  induction l with
  | nil => exact absurd rfl hl
  | cons x xs ih =>
    cases xs with
    | nil => exact splitOn_of_not_mem (hsep x (List.mem_singleton_self x))
    | cons y ys =>
      rw [joinOn, splitOn_append_cons (hsep x (List.mem_cons_self _ _)),
        ih nofun fun z hz => hsep z (List.mem_cons_of_mem x hz)]

-- A byte of a joined string is the separator or a byte of one of the parts.
theorem not_mem_joinOn {c : UInt8} {l : List GoString} (hc : c ≠ sep) (hl : ∀ x ∈ l, c ∉ x) :
    c ∉ joinOn sep l := by
  induction l with
  | nil => nofun
  | cons x xs ih =>
    cases xs with
    | nil => exact hl x (List.mem_singleton_self x)
    | cons y ys =>
      rw [joinOn]
      simp only [List.mem_append, List.mem_cons, not_or]
      exact ⟨hl x (List.mem_cons_self _ _), hc, ih fun z hz => hl z (List.mem_cons_of_mem x hz)⟩

end Split

section Decimal

-- The decimal digits of `n` before `acc`, most significant first; `fuel` bounds the number of
-- digits.
def decimalAux : Nat → Nat → GoString → GoString
  | 0, _, acc => acc
  | fuel + 1, n, acc =>
    if n < 10 then (48 + n).toUInt8 :: acc
    else decimalAux fuel (n / 10) ((48 + n % 10).toUInt8 :: acc)

-- A natural number in decimal.
def decimal (n : Nat) : GoString := decimalAux (n + 1) n []

-- Go's `strconv.Itoa`.
def itoa (n : Int) : GoString := if n < 0 then 45 :: decimal n.natAbs else decimal n.toNat

theorem digit_byte :
    ∀ d, d < 10 → isDigit (48 + d).toUInt8 = true ∧ (48 + d).toUInt8.toNat - 48 = d := by
  decide

theorem digitsValue_cons {c : UInt8} {l : GoString} (hc : isDigit c = true) (hl : l ≠ []) :
    digitsValue (c :: l) = (digitsValue l).map ((c.toNat - 48) * 10 ^ l.length + ·) := by
  cases l with
  | nil => exact absurd rfl hl
  | cons d l => simp only [digitsValue, hc, if_true]

-- Writing digit `d` in front of digits of value `v` (or of none, `v = 0`).
theorem digitsValue_push {d v : Nat} {acc : GoString} (hd : d < 10)
    (hacc : acc = [] ∧ v = 0 ∨ digitsValue acc = some v) :
    digitsValue ((48 + d).toUInt8 :: acc) = some (d * 10 ^ acc.length + v) := by
  have ⟨hdig, hval⟩ := digit_byte d hd
  rcases hacc with ⟨rfl, rfl⟩ | hacc
  · simp [digitsValue, hdig, hval]
  · have hne : acc ≠ [] := by rintro rfl; cases hacc
    rw [digitsValue_cons hdig hne, hacc, hval]
    rfl

theorem digitsValue_decimalAux (fuel : Nat) : ∀ n acc v, n < 10 ^ (fuel + 1) →
    (acc = [] ∧ v = 0 ∨ digitsValue acc = some v) →
    digitsValue (decimalAux (fuel + 1) n acc) = some (n * 10 ^ acc.length + v) := by
  induction fuel with
  | zero =>
    intro n acc v hn hacc
    rw [decimalAux, if_pos (by omega), digitsValue_push (by omega) hacc]
  | succ fuel ih =>
    intro n acc v hn hacc
    rw [decimalAux]
    split
    · exact digitsValue_push (by omega) hacc
    · -- the last digit goes first into `acc`, the others are written before it
      have hq : n / 10 < 10 ^ (fuel + 1) := by
        rw [Nat.div_lt_iff_lt_mul (by omega), ← Nat.pow_succ]
        exact hn
      rw [ih (n / 10) _ _ hq (.inr (digitsValue_push (Nat.mod_lt n (by omega)) hacc)),
        List.length_cons]
      have hn := Nat.div_add_mod n 10
      congr 1
      conv_rhs => rw [← hn]
      ring

theorem digitsValue_decimal (n : Nat) : digitsValue (decimal n) = some n := by
  have h := digitsValue_decimalAux n n [] 0
    ((Nat.lt_succ_self n).trans (Nat.lt_pow_self (by omega) (n + 1))) (.inl ⟨rfl, rfl⟩)
  simpa using h

theorem isDigit_of_mem_decimalAux : ∀ (fuel n : Nat) (acc : GoString) (c : UInt8),
    c ∈ decimalAux fuel n acc → isDigit c = true ∨ c ∈ acc := by
  intro fuel
  induction fuel with
  | zero => exact fun _ _ _ h => .inr h
  | succ fuel ih =>
    intro n acc c h
    rw [decimalAux] at h
    split at h
    · rcases List.mem_cons.mp h with rfl | h
      · exact .inl (digit_byte n (by omega)).1
      · exact .inr h
    · rcases ih _ _ c h with hc | hc
      · exact .inl hc
      · rcases List.mem_cons.mp hc with rfl | hc
        · exact .inl (digit_byte _ (Nat.mod_lt n (by omega))).1
        · exact .inr hc

theorem isDigit_of_mem_decimal {n : Nat} {c : UInt8} (h : c ∈ decimal n) : isDigit c = true :=
  (isDigit_of_mem_decimalAux _ _ _ c h).resolve_right nofun

-- `strconv.Atoi` reads back what `strconv.Itoa` wrote, for every value an `int` holds.
theorem atoi_itoa {n : Int} (h₁ : -2 ^ 63 ≤ n) (h₂ : n < 2 ^ 63) : atoi (itoa n) = some n := by
  unfold itoa
  split
  · next hn =>
    simp only [atoi, if_true, digitsValue_decimal, Option.some_bind]
    rw [if_pos (by omega)]
    congr 1
    omega
  · next hn =>
    have hne : decimal n.toNat ≠ [] := fun h => by
      have hv := digitsValue_decimal n.toNat
      rw [h] at hv
      cases hv
    obtain ⟨c, cs, hd⟩ := List.exists_cons_of_ne_nil hne
    have hc := isDigit_of_mem_decimal (hd ▸ List.mem_cons_self c cs)
    have h45 : c ≠ 45 := fun h => by subst h; cases hc
    have h43 : c ≠ 43 := fun h => by subst h; cases hc
    simp only [hd, atoi, if_neg h45, if_neg h43]
    rw [← hd, digitsValue_decimal, Option.some_bind, if_neg Bool.false_ne_true, if_pos (by omega)]
    exact congrArg some (Int.toNat_of_nonneg (by omega))

-- A field that cannot be told from the separators around it: no `;` and no line break.
def Clean (f : GoString) : Prop := 59 ∉ f ∧ 10 ∉ f ∧ 13 ∉ f

instance : DecidablePred Clean := fun f => inferInstanceAs (Decidable (59 ∉ f ∧ 10 ∉ f ∧ 13 ∉ f))

theorem clean_of_forall {f : GoString} (h : ∀ c ∈ f, c = 45 ∨ isDigit c = true) : Clean f := by
  refine ⟨fun hm => ?_, fun hm => ?_, fun hm => ?_⟩ <;> rcases h _ hm with h | h <;> cases h

theorem clean_itoa (n : Int) : Clean (itoa n) := by
  refine clean_of_forall fun c hc => ?_
  unfold itoa at hc
  split at hc
  · rcases List.mem_cons.mp hc with h | h
    · exact .inl h
    · exact .inr (isDigit_of_mem_decimal h)
  · exact .inr (isDigit_of_mem_decimal hc)

end Decimal

section Render

-- The records of the round trip: text fields that are `Clean`, a non-empty list of navigation
-- systems free of `+`, and integers an `int` holds.
structure Stream.WellFormed (s : Stream) : Prop where
  text : ∀ f ∈ [s.mp, s.identifier, s.format, s.formatDetails, s.network, s.country, s.generator,
    s.compression, s.authentication, s.misc], Clean f
  navSystem : s.navSystem ≠ [] ∧ ∀ f ∈ s.navSystem, Clean f ∧ 43 ∉ f
  int64 : ∀ n ∈ [s.carrier, s.solution, s.bitRate], -2 ^ 63 ≤ n ∧ n < 2 ^ 63

-- `float32` coordinates as a caster writes them.
variable (formatFloat32 : UInt32 → GoString)

-- Modelled from the spec: the fields of a record's STR line, at the positions of the field
-- constants: integers in decimal, `Nmea` as 0 or 1, `Fee` as Y or N, the navigation systems
-- joined by `+`.
def streamFields (s : Stream) : List GoString :=
  [ascii "STR", s.mp, s.identifier, s.format, s.formatDetails, itoa s.carrier,
    joinOn 43 s.navSystem, s.network, s.country, formatFloat32 s.latitude,
    formatFloat32 s.longitude, ascii (if s.nmea then "1" else "0"), itoa s.solution, s.generator,
    s.compression, s.authentication, ascii (if s.fee then "Y" else "N"), itoa s.bitRate, s.misc]

-- Modelled from the spec: the STR line of a record.
def renderStream (s : Stream) : GoString := joinOn 59 (streamFields formatFloat32 s)

variable {formatFloat32}

theorem streamFields_clean {s : Stream} (hs : s.WellFormed)
    (hclean : ∀ x ∈ [s.latitude, s.longitude], Clean (formatFloat32 x)) :
    ∀ f ∈ streamFields formatFloat32 s, Clean f := by
  have ht := hs.text
  simp only [List.forall_mem_cons] at ht
  obtain ⟨hmp, hid, hformat, hdetails, hnetwork, hcountry, hgen, hcomp, hauth, hmisc, -⟩ := ht
  have hnav : Clean (joinOn 43 s.navSystem) :=
    ⟨not_mem_joinOn (by decide) fun f hf => (hs.navSystem.2 f hf).1.1,
      not_mem_joinOn (by decide) fun f hf => (hs.navSystem.2 f hf).1.2.1,
      not_mem_joinOn (by decide) fun f hf => (hs.navSystem.2 f hf).1.2.2⟩
  have hnmea : Clean (ascii (if s.nmea then "1" else "0")) := by cases s.nmea <;> decide
  have hfee : Clean (ascii (if s.fee then "Y" else "N")) := by cases s.fee <;> decide
  simp only [List.forall_mem_cons] at hclean
  simp only [streamFields, List.forall_mem_cons]
  exact ⟨by decide, hmp, hid, hformat, hdetails, clean_itoa _, hnav, hnetwork, hcountry,
    hclean.1, hclean.2.1, hnmea, clean_itoa _, hgen, hcomp, hauth, hfee, clean_itoa _, hmisc, nofun⟩

theorem parseBool_nmea (b : Bool) : parseBool (ascii (if b then "1" else "0")) = some b := by
  cases b <;> rfl

theorem fee_render (b : Bool) : (ascii (if b then "Y" else "N") == ascii "Y") = b := by
  cases b <;> rfl

theorem splitOn_renderStream {s : Stream} (hs : s.WellFormed)
    (hclean : ∀ x ∈ [s.latitude, s.longitude], Clean (formatFloat32 x)) :
    splitOn 59 (renderStream formatFloat32 s) = streamFields formatFloat32 s :=
  splitOn_joinOn nofun fun f hf => (streamFields_clean hs hclean f hf).1

-- An STR line has no line break in it.
theorem renderStream_clean {s : Stream} (hs : s.WellFormed)
    (hclean : ∀ x ∈ [s.latitude, s.longitude], Clean (formatFloat32 x)) :
    10 ∉ renderStream formatFloat32 s ∧ 13 ∉ renderStream formatFloat32 s :=
  ⟨not_mem_joinOn (by decide) fun f hf => (streamFields_clean hs hclean f hf).2.1,
    not_mem_joinOn (by decide) fun f hf => (streamFields_clean hs hclean f hf).2.2⟩

-- `parseStream` reads back every field of the record the line was rendered from.
theorem parseStream_renderStream (parseFloat32 : GoString → Option UInt32) {s : Stream}
    (hs : s.WellFormed) (hcoord : ∀ x ∈ [s.latitude, s.longitude],
      parseFloat32 (formatFloat32 x) = some x ∧ Clean (formatFloat32 x)) :
    parseStream parseFloat32 (renderStream formatFloat32 s) = .ok s := by
  have hi := hs.int64
  simp only [List.forall_mem_cons] at hi
  obtain ⟨⟨hc₁, hc₂⟩, ⟨hs₁, hs₂⟩, ⟨hb₁, hb₂⟩, -⟩ := hi
  have hnav := splitOn_joinOn hs.navSystem.1 fun f hf => (hs.navSystem.2 f hf).2
  have hclean : ∀ x ∈ [s.latitude, s.longitude], Clean (formatFloat32 x) :=
    fun x hx => (hcoord x hx).2
  simp only [List.forall_mem_cons] at hcoord
  obtain ⟨⟨hlat, -⟩, ⟨hlon, -⟩, -⟩ := hcoord
  simp only [parseStream, splitOn_renderStream hs hclean, streamFields, Field.mp, Field.id,
    Field.format, Field.formatDetails, Field.carrierField, Field.navsystem, Field.network,
    Field.country, Field.latitude, Field.longitude, Field.nmeaBit, Field.solution, Field.generator,
    Field.compression, Field.auth, Field.feeBit, Field.bitRateField, Field.misc,
    List.getD_cons_succ, List.getD_cons_zero, atoi_itoa hc₁ hc₂, atoi_itoa hs₁ hs₂,
    atoi_itoa hb₁ hb₂, hlat, hlon, parseBool_nmea, fee_render, hnav, Option.getD_some]
  rfl

end Render

section Scan

-- A line the scanner hands over whole: no newline in it, and room for it and its newline in the
-- buffer.
def Fits (ln : GoString) : Prop := 10 ∉ ln ∧ ln.length < maxScanTokenSize

instance : DecidablePred Fits :=
  fun ln => inferInstanceAs (Decidable (10 ∉ ln ∧ ln.length < maxScanTokenSize))

theorem scanLines_line {ln : GoString} (h : Fits ln) (rest : GoString) :
    scanLines (ln ++ 10 :: rest) = (dropCR ln :: (scanLines rest).1, (scanLines rest).2) := by
  unfold scanLines
  rw [splitOn_append_cons h.1]
  obtain ⟨p, ps, hps⟩ := List.exists_cons_of_ne_nil (splitOn_ne_nil rest : splitOn 10 rest ≠ [])
  rw [hps, scanSegments, if_neg (by have := h.2; omega)]
  exact nofun

-- A last line with no newline after it is handed over when it fits on its own.
theorem scanLines_last {ln : GoString} (hne : ln ≠ []) (h : Fits ln) :
    scanLines ln = ([dropCR ln], false) := by
  unfold scanLines
  rw [splitOn_of_not_mem h.1, scanSegments, if_neg hne, if_neg (by have := h.2; omega)]

theorem dropCR_of_not_mem {ln : GoString} (h : 13 ∉ ln) : dropCR ln = ln :=
  if_neg fun hl => h (List.mem_of_getLast?_eq_some hl)

end Scan

section Loop

-- The first field of a line starts the line.
theorem head?_eq_of_splitOn {sep c : UInt8} {ln cs : GoString}
    (h : (splitOn sep ln).headD [] = c :: cs) : ln.head? = some c := by
  cases ln with
  | nil => cases h
  | cons d ds =>
    unfold splitOn at h
    split at h
    · cases h
    · split at h <;> cases h <;> rfl

-- The lines the loop of `ParseSourcetable` skips: comments, and CAS and NET records.
def Skipped (ln : GoString) : Prop :=
  ln.head? = some 35 ∨ ln.head? = some 42 ∨ (splitOn 59 ln).headD [] = ascii "CAS" ∨
    (splitOn 59 ln).headD [] = ascii "NET"

instance : DecidablePred Skipped := fun ln =>
  inferInstanceAs (Decidable (ln.head? = some 35 ∨ ln.head? = some 42 ∨
    (splitOn 59 ln).headD [] = ascii "CAS" ∨ (splitOn 59 ln).headD [] = ascii "NET"))

variable (parseFloat32 : GoString → Option UInt32) (url : GoString)

-- The lines the loop rejects: not skipped, not the end of the table, and not an STR line that
-- `parseStream` accepts.
def Rejected (ln : GoString) : Prop :=
  ¬ Skipped ln ∧ (splitOn 59 ln).headD [] ≠ ascii "ENDSOURCETABLE" ∧
    ((splitOn 59 ln).headD [] = ascii "STR" → ∃ e, parseStream parseFloat32 ln = .error e)

-- The lines the loop takes and goes on after.
def Accepted (ln : GoString) : Prop :=
  Skipped ln ∨
    (splitOn 59 ln).headD [] = ascii "STR" ∧ ∃ str, parseStream parseFloat32 ln = .ok str

variable {parseFloat32 url}

-- Every error of `parseStream` names what it failed on, and quotes the line.
theorem parseStream_error {ln e : GoString} (h : parseStream parseFloat32 ln = .error e) :
    ∃ msg ∈ ["missing fields at stream line: ", "cannot parse the streams carrier in line: ",
      "cannot parse the streams latitude in line: ", "cannot parse the streams longitude in line: ",
      "cannot parse the streams nmea in line: ", "cannot parse the streams solution in line: "],
      e = ascii msg ++ ln := by
  simp only [parseStream] at h
  repeat' split at h
  all_goals cases h
  all_goals exact ⟨_, by simp, rfl⟩

theorem parseLines_skipped {ln : GoString} (h : Skipped ln) (rest : List GoString) :
    parseLines parseFloat32 url (ln :: rest) = parseLines parseFloat32 url rest := by
  simp only [parseLines]
  split
  · rfl
  · next hc =>
    rw [if_pos ((h.resolve_left fun ha => hc (.inl ha)).resolve_left fun hb => hc (.inr hb))]

theorem parseLines_str {ln : GoString} {str : Stream}
    (hstr : (splitOn 59 ln).headD [] = ascii "STR") (hp : parseStream parseFloat32 ln = .ok str)
    (rest : List GoString) :
    parseLines parseFloat32 url (ln :: rest) =
      (parseLines parseFloat32 url rest).map (str :: ·) := by
  have hhead := head?_eq_of_splitOn hstr
  simp only [parseLines, hhead, hstr, hp]
  rfl

theorem parseLines_endsourcetable {ln : GoString}
    (hend : (splitOn 59 ln).headD [] = ascii "ENDSOURCETABLE") (rest : List GoString) :
    parseLines parseFloat32 url (ln :: rest) = .ok [] := by
  have hhead := head?_eq_of_splitOn hend
  simp only [parseLines, hhead, hend]
  rfl

theorem parseLines_rejected {ln : GoString} (h : Rejected parseFloat32 ln) (rest : List GoString) :
    ∃ e, parseLines parseFloat32 url (ln :: rest) = .error e := by
  have ⟨hskip, hend, hstr⟩ := h
  unfold Skipped at hskip
  simp only [not_or] at hskip
  simp only [parseLines, if_neg (not_or.mpr ⟨hskip.1, hskip.2.1⟩),
    if_neg (not_or.mpr ⟨hskip.2.2.1, hskip.2.2.2⟩), if_neg hend]
  split
  · next hs =>
    obtain ⟨e, he⟩ := hstr hs
    rw [he]
    exact ⟨_, rfl⟩
  · exact ⟨_, rfl⟩

theorem parseLines_accepted {ln : GoString} (h : Accepted parseFloat32 ln) {rest : List GoString}
    (hrest : ∃ e, parseLines parseFloat32 url rest = .error e) :
    ∃ e, parseLines parseFloat32 url (ln :: rest) = .error e := by
  obtain ⟨e, he⟩ := hrest
  rcases h with hskip | ⟨hstr, str, hp⟩
  · exact ⟨e, (parseLines_skipped hskip rest).trans he⟩
  · exact ⟨e, by rw [parseLines_str hstr hp, he]; rfl⟩

end Loop

section Table

variable (formatFloat32 : UInt32 → GoString) (parseFloat32 : GoString → Option UInt32)

-- Modelled from the spec: the sourcetables of the round trip, with the records they list. STR
-- lines rendered from well-formed records and lines the loop skips, then an ENDSOURCETABLE line
-- and any text after it; every line up to that one fits the scanner's buffer.
inductive RenderedTable : GoString → List Stream → Prop
  | endsourcetable (trailing : GoString) :
    RenderedTable (ascii "ENDSOURCETABLE" ++ 10 :: trailing) []
  | skipped {ln body ss} : Fits ln → Skipped (dropCR ln) → RenderedTable body ss →
    RenderedTable (ln ++ 10 :: body) ss
  | stream {s body ss} : s.WellFormed → (renderStream formatFloat32 s).length < maxScanTokenSize →
    RenderedTable body ss → RenderedTable (renderStream formatFloat32 s ++ 10 :: body) (s :: ss)

-- The texts the loop rejects: lines it takes and goes on after, then a line it rejects, with or
-- without a newline after it; every line up to that one fits the scanner's buffer.
inductive RejectedTable : GoString → Prop
  | rejected {ln rest} : Fits ln → Rejected parseFloat32 (dropCR ln) →
    RejectedTable (ln ++ 10 :: rest)
  | last {ln} : ln ≠ [] → Fits ln → Rejected parseFloat32 (dropCR ln) → RejectedTable ln
  | accepted {ln rest} : Fits ln → Accepted parseFloat32 (dropCR ln) → RejectedTable rest →
    RejectedTable (ln ++ 10 :: rest)

variable {formatFloat32 parseFloat32}

-- Decode after encode: on every sourcetable of the round trip, `ParseSourcetable` returns the
-- rendered records, in order, and no error, provided each record's two coordinates are written
-- by `formatFloat32` as texts that parse back to the same bits and hold no separator.
theorem parseSourcetable_rendered {body : GoString} {ss : List Stream}
    (h : RenderedTable formatFloat32 body ss) (hcoord : ∀ s ∈ ss, ∀ x ∈ [s.latitude, s.longitude],
      parseFloat32 (formatFloat32 x) = some x ∧ Clean (formatFloat32 x)) (url : GoString) :
    parseSourcetable parseFloat32 url body = .ok ss := by
  unfold parseSourcetable
  induction h with
  | endsourcetable trailing =>
    rw [scanLines_line (by decide)]
    exact parseLines_endsourcetable (by rfl) _
  | skipped hfit hskip _ ih =>
    rw [scanLines_line hfit, parseLines_skipped hskip]
    exact ih hcoord
  | @stream s _ _ hs hlen _ ih =>
    have hs₀ := hcoord s (List.mem_cons_self _ _)
    have hclean : ∀ x ∈ [s.latitude, s.longitude], Clean (formatFloat32 x) :=
      fun x hx => (hs₀ x hx).2
    have ⟨h10, h13⟩ := renderStream_clean hs hclean
    rw [scanLines_line ⟨h10, hlen⟩, dropCR_of_not_mem h13,
      parseLines_str (by rw [splitOn_renderStream hs hclean]; rfl)
        (parseStream_renderStream parseFloat32 hs hs₀),
      ih fun s' hs' => hcoord s' (List.mem_cons_of_mem _ hs')]
    rfl

-- The bits of the float32 that equals the whole number `m < 2 ^ 24`: the biased exponent of its
-- leading bit, then the 23 bits after that bit.
def wholeFloat32Bits (m : Nat) : Nat :=
  if m = 0 then 0
  else (bitLength m + 126) * 2 ^ 23 + m * 2 ^ (24 - bitLength m) % 2 ^ 23

-- `strconv.ParseFloat(s, 32)` and then `float32(...)` on a text of decimal digits, with an
-- optional minus sign, whose value float32 holds exactly (below `2 ^ 24`); there Go's result is
-- exact. This parser refuses every other text.
def parseWholeFloat32 : GoString → Option UInt32
  | 45 :: digits => (digitsValue digits).bind fun m =>
    if m < 2 ^ 24 then some (UInt32.ofNat (2 ^ 31 + wholeFloat32Bits m)) else none
  | digits => (digitsValue digits).bind fun m =>
    if m < 2 ^ 24 then some (UInt32.ofNat (wholeFloat32Bits m)) else none

-- `strconv.FormatFloat(float64(x), 'f', -1, 32)` on a float32 that is a whole number below
-- `2 ^ 24`: the sign, then the digits of the value of the fraction bits under the exponent.
def formatWholeFloat32 (x : UInt32) : GoString :=
  let magnitude := x.toNat % 2 ^ 31
  let exponent := magnitude / 2 ^ 23
  let value := if exponent = 0 then 0 else (2 ^ 23 + magnitude % 2 ^ 23) / 2 ^ (150 - exponent)
  (if 2 ^ 31 ≤ x.toNat then [45] else []) ++ decimal value

-- A caster's record, at 40 degrees north and 105 degrees west.
def casterStream : Stream where
  mp := ascii "MOUNT"
  identifier := ascii "Boulder"
  format := ascii "RTCM 3.2"
  formatDetails := ascii "1005(10)"
  carrier := 2
  navSystem := [ascii "GPS", ascii "GLO"]
  network := ascii "NET1"
  country := ascii "USA"
  latitude := 0x42200000
  longitude := 0xC2D20000
  nmea := true
  solution := 0
  generator := ascii "sNTRIP"
  compression := ascii "none"
  authentication := ascii "B"
  fee := false
  bitRate := 9600
  misc := []

def casterTable : GoString :=
  renderStream formatWholeFloat32 casterStream ++ 10 ::
    (ascii "# comment" ++ 10 :: (ascii "ENDSOURCETABLE" ++ 10 :: ascii "trailing"))

theorem parseSourcetable_casterTable :
    RenderedTable formatWholeFloat32 casterTable [casterStream] ∧
    (∀ s ∈ [casterStream], ∀ x ∈ [s.latitude, s.longitude],
      parseWholeFloat32 (formatWholeFloat32 x) = some x ∧ Clean (formatWholeFloat32 x)) ∧
    parseSourcetable parseWholeFloat32 (ascii "caster") casterTable = .ok [casterStream] :=
  have h : RenderedTable formatWholeFloat32 casterTable [casterStream] :=
    .stream ⟨by decide, by decide, by decide⟩ (by decide)
      (.skipped (by decide) (by decide) (.endsourcetable _))
  have hcoord : ∀ s ∈ [casterStream], ∀ x ∈ [s.latitude, s.longitude],
      parseWholeFloat32 (formatWholeFloat32 x) = some x ∧ Clean (formatWholeFloat32 x) := by
    decide
  ⟨h, hcoord, parseSourcetable_rendered h hcoord _⟩

-- On every text with a line the loop rejects before the end of the table, `ParseSourcetable`
-- returns an error and no table.
theorem parseSourcetable_rejects {body : GoString} (h : RejectedTable parseFloat32 body)
    (url : GoString) : ∃ e, parseSourcetable parseFloat32 url body = .error e := by
  unfold parseSourcetable
  induction h with
  | rejected hfit hrej =>
    rw [scanLines_line hfit]
    exact parseLines_rejected hrej _
  | last hne hfit hrej =>
    rw [scanLines_last hne hfit]
    exact parseLines_rejected hrej _
  | accepted hfit hacc _ ih =>
    rw [scanLines_line hfit]
    exact parseLines_accepted hacc ih

end Table

-- A CAS record, then a line that is none of the records the loop knows.
def garbledTable : GoString :=
  ascii "CAS;caster.example;2101" ++ 10 :: (ascii "garbage" ++ 10 :: ascii "ENDSOURCETABLE")

theorem parseSourcetable_garbledTable :
    RejectedTable (fun _ => none) garbledTable ∧
    ∃ e, parseSourcetable (fun _ => none) (ascii "caster") garbledTable = .error e :=
  have h : RejectedTable (fun _ => none) garbledTable :=
    .accepted (by decide) (.inl (by decide))
      (.rejected (by decide) ⟨by decide, by decide, fun h => absurd h (by decide)⟩)
  ⟨h, parseSourcetable_rejects h _⟩

end Rdk.Rtkutils

import Rdk.Rtkutils.Ntrip

namespace Rdk.Rtkutils

section Split

variable {sep : UInt8}

theorem splitOn_ne_nil (s : GoString) : splitOn sep s ≠ [] := by
  cases s with
  | nil => nofun
  | cons c cs =>
    unfold splitOn
    split
    · nofun
    · split <;> nofun

-- A segment free of the separator, then the separator: the segment is the first part.
theorem splitOn_append_cons {seg : GoString} (hseg : sep ∉ seg) (rest : GoString) :
    splitOn sep (seg ++ sep :: rest) = seg :: splitOn sep rest := by
  induction seg with
  | nil => simp [splitOn]
  | cons c cs ih =>
    have hc : c ≠ sep := fun h => hseg (h ▸ List.mem_cons_self c cs)
    rw [List.cons_append, splitOn, if_neg hc, ih fun h => hseg (List.mem_cons_of_mem c h)]

end Split

-- A line that does not fit the scanner's buffer with its newline ends the scan.
theorem scanLines_long_line {seg : GoString} (hseg : (10 : UInt8) ∉ seg)
    (hlen : maxScanTokenSize ≤ seg.length) (rest : GoString) :
    scanLines (seg ++ 10 :: rest) = ([], true) := by
  unfold scanLines
  rw [splitOn_append_cons hseg]
  obtain ⟨p, ps, hps⟩ := List.exists_cons_of_ne_nil (splitOn_ne_nil rest : splitOn 10 rest ≠ [])
  rw [hps, scanSegments, if_pos (by omega)]
  exact nofun

-- A comment line of 65536 bytes stops the scanner with `ErrTooLong`, which `ParseSourcetable`
-- never looks at: whatever follows, the result is an empty table and no error.
theorem parseSourcetable_long_comment (parseFloat32 : GoString → Option UInt32)
    (url rest : GoString) :
    parseSourcetable parseFloat32 url (List.replicate 65536 35 ++ 10 :: rest) = .ok [] := by
  unfold parseSourcetable
  have hmem : (10 : UInt8) ∉ List.replicate 65536 35 := fun h => by
    rw [List.mem_replicate] at h
    exact absurd h.2 (by decide)
  rw [scanLines_long_line hmem (by rw [List.length_replicate]; decide)]
  rfl

-- The zero `Stream{}`.
def zeroStream : Stream :=
  ⟨[], [], [], [], 0, [], [], [], 0, 0, false, 0, [], [], [], false, 0, []⟩

-- `Sourcetable.HasStream` over the table's `Streams`.
def hasStream (streams : List Stream) (mountpoint : GoString) : Stream × Bool :=
  match streams with
  | [] => (zeroStream, false)
  | str :: rest => if str.mp = mountpoint then (str, true) else hasStream rest mountpoint

-- `HasStream` finds the first stream of the mountpoint, and reports the zero stream when the
-- table has none.
theorem hasStream_eq_find? (streams : List Stream) (mountpoint : GoString) :
    hasStream streams mountpoint =
      ((streams.find? (·.mp = mountpoint)).map (·, true)).getD (zeroStream, false) := by
  induction streams with
  | nil => rfl
  | cons str rest ih =>
    by_cases h : str.mp = mountpoint <;> simp [hasStream, h, ih]

end Rdk.Rtkutils

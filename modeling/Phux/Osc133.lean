import Phux.WirePrimitives

/-! The scanner for shell marks in a pane's output: a byte machine over the stream, and
the reader of whole chunks that skips what the machine would ignore. -/

namespace Phux

open ByteReader List

inductive OscMark where
  | commandStart
  | commandEnd (exitCode : Option Int32)
  | progress (payload : String)
deriving DecidableEq

def maxOscLen : Nat := 64

def parseI32 (text : Bytes) : Option Int32 :=
  let (negative, digits) := match text with
    | 0x2d :: digits => (true, digits)
    | 0x2b :: digits => (false, digits)
    | digits => (false, digits)
  if digits ≠ [] ∧ digits.all fun b => 0x30 ≤ b && b ≤ 0x39 then
    let n : Int := digits.foldl (fun n b => n * 10 + (b.toNat - 0x30)) 0
    let value := if negative then -n else n
    if -0x80000000 ≤ value ∧ value < 0x80000000 then some (.ofInt value) else none
  else none

def parseOsc : Bytes → Option OscMark
  | 0x39 :: 0x3b :: progress =>
    if progress.take 2 = [0x34, 0x3b] then (fromUtf8 progress).map .progress else none
  | 0x31 :: 0x33 :: 0x33 :: 0x3b :: kind :: params =>
    match kind with
    | 0x43 => some .commandStart
    | 0x44 =>
      -- Only the first parameter counts, and one that is no number is no code.
      some <| .commandEnd <| match params with
        | 0x3b :: params =>
          let first := params.takeWhile (· ≠ 0x3b)
          (fromUtf8 first).bind fun _ => parseI32 first
        | _ => none
    | _ => none
  | _ => none

inductive OscState where
  | ground
  | escape
  | collect
  | collectEscape
deriving DecidableEq

structure Osc133Scanner where
  state : OscState := .ground
  buf : Bytes := []
  overflow : Bool := false
deriving DecidableEq

namespace Osc133Scanner

variable (s : Osc133Scanner)

def finish : Osc133Scanner × Option OscMark := ({}, if s.overflow then none else parseOsc s.buf)

def afterEscape (byte : UInt8) : Osc133Scanner :=
  match byte with
  | 0x5d => { state := .collect }
  | 0x1b => s
  | _ => { s with state := .ground }

def step (byte : UInt8) : Osc133Scanner × Option OscMark :=
  match s.state with
  | .ground => (if byte = 0x1b then { s with state := .escape } else s, none)
  | .escape => (s.afterEscape byte, none)
  | .collect =>
    match byte with
    | 0x07 => s.finish
    | 0x1b => ({ s with state := .collectEscape }, none)
    | _ =>
      if s.buf.length < maxOscLen then ({ s with buf := s.buf ++ [byte] }, none)
      else ({ s with overflow := true }, none)
  | .collectEscape =>
    if byte = 0x5c then s.finish
    -- The escape aborts the string and starts a sequence that this byte belongs to.
    else (({ s with buf := [], state := .escape } : Osc133Scanner).afterEscape byte, none)

def feedBytes : Nat → Osc133Scanner → Bytes → Osc133Scanner × List OscMark
  | 0, s, _ => (s, [])
  | fuel + 1, s, chunk =>
    match if s.state = .ground then chunk.dropWhile (· ≠ 0x1b) else chunk with
    | [] => (s, [])
    | byte :: rest =>
      let (s, mark) := s.step byte
      let (s, marks) := feedBytes fuel s rest
      (s, mark.toList ++ marks)

/-- Every turn of the loop takes a byte, so the chunk's length bounds its turns. -/
def feed (chunk : Bytes) : Osc133Scanner × List OscMark := feedBytes chunk.length s chunk

def feedAll : Osc133Scanner → List Bytes → Osc133Scanner × List OscMark
  | s, [] => (s, [])
  | s, chunk :: chunks =>
    let (s, marks) := s.feed chunk
    let (s, more) := feedAll s chunks
    (s, marks ++ more)

/-- The machine alone, without the skip. -/
def scan : Osc133Scanner → Bytes → Osc133Scanner × List OscMark
  | s, [] => (s, [])
  | s, byte :: bytes =>
    ((scan (s.step byte).1 bytes).1, (s.step byte).2.toList ++ (scan (s.step byte).1 bytes).2)

variable {s} {fuel : Nat} {bytes : Bytes}

theorem scan_skip (hs : s.state = .ground) : scan s (bytes.dropWhile (· ≠ 0x1b)) = scan s bytes := by
  induction bytes with
  | nil => rfl
  | cons byte bytes ih =>
    by_cases hesc : byte = 0x1b
    · simp [hesc]
    · have hstep : s.step byte = (s, none) := by simp [step, hs, hesc]
      rw [dropWhile_cons_of_pos (by simpa using hesc), ih, scan, hstep]
      rfl

theorem feedBytes_eq (h : bytes.length ≤ fuel) : feedBytes fuel s bytes = scan s bytes := by
  induction fuel generalizing s bytes with
  | zero =>
    rw [length_eq_zero_iff.mp (Nat.le_zero.mp h)]
    rfl
  | succ fuel ih =>
    have hskip : scan s (if s.state = .ground then bytes.dropWhile (· ≠ 0x1b) else bytes) =
        scan s bytes := by
      split
      · exact scan_skip ‹_›
      · rfl
    have hlen : (if s.state = .ground then bytes.dropWhile (· ≠ 0x1b) else bytes).length ≤
        fuel + 1 := by
      split
      · exact Nat.le_trans (dropWhile_suffix _).length_le h
      · exact h
    rw [feedBytes, ← hskip]
    cases hrest : if s.state = .ground then bytes.dropWhile (· ≠ 0x1b) else bytes with
    | nil => rfl
    | cons byte rest =>
      rw [hrest, length_cons] at hlen
      simp [scan, ih (Nat.le_of_succ_le_succ hlen)]

theorem scan_append (bytes more : Bytes) : scan s (bytes ++ more) =
    ((scan (scan s bytes).1 more).1, (scan s bytes).2 ++ (scan (scan s bytes).1 more).2) := by
  induction bytes generalizing s with
  | nil => rfl
  | cons byte bytes ih => simp [scan, ih]

theorem feedAll_eq (chunks : List Bytes) : feedAll s chunks = scan s chunks.flatten := by
  induction chunks generalizing s with
  | nil => rfl
  | cons chunk chunks ih =>
    have hfeed : s.feed chunk = scan s chunk := feedBytes_eq (Nat.le_refl _)
    rw [feedAll, hfeed, flatten_cons, scan_append, ← ih]

theorem step_buf (h : s.buf.length ≤ maxOscLen) (byte : UInt8) :
    (s.step byte).1.buf.length ≤ maxOscLen := by
  unfold step
  cases s.state with
  | ground =>
    dsimp only
    split <;> exact h
  | escape =>
    dsimp only [afterEscape]
    split
    · exact Nat.zero_le _
    · exact h
    · exact h
  | collect =>
    dsimp only
    split
    · exact Nat.zero_le _
    · exact h
    · split
      · rw [length_append]
        exact Nat.succ_le_of_lt ‹_›
      · exact h
  | collectEscape =>
    dsimp only [afterEscape]
    split
    · exact Nat.zero_le _
    · split <;> exact Nat.zero_le _

theorem scan_buf (h : s.buf.length ≤ maxOscLen) : (scan s bytes).1.buf.length ≤ maxOscLen := by
  induction bytes generalizing s with
  | nil => exact h
  | cons byte bytes ih => exact ih (step_buf h byte)

/-- However the output is cut into reads, the scanner reports the same marks as on the whole
and as byte by byte, and carries over at most as much as it may. -/
theorem feedAll_cuts (reads : List Bytes) :
    feedAll {} reads = feed {} reads.flatten ∧
      feedAll {} (reads.flatten.map fun byte => [byte]) = feed {} reads.flatten ∧
      (feedAll {} reads).1.buf.length ≤ maxOscLen := by
  have hfeed : feed {} reads.flatten = scan {} reads.flatten := feedBytes_eq (Nat.le_refl _)
  have hbytes : (reads.flatten.map fun byte => [byte]).flatten = reads.flatten := by
    rw [← flatMap_def, flatMap_singleton']
  rw [feedAll_eq, feedAll_eq, hbytes, hfeed]
  exact ⟨rfl, rfl, scan_buf (Nat.zero_le _)⟩

end Osc133Scanner

end Phux

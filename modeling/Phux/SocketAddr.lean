import Phux.Integers
import Mathlib.Data.Nat.Digits.Defs
import Mathlib.Tactic.IntervalCases

/-! Textual IP addresses as the standard library prints and parses them.
Printing elides the longest run of zero segments; parsing undoes that. -/

namespace Phux

variable {r : Text} {segs : List UInt16} {b : Nat} {s : Text} {limit k : Nat} {sp : Span}
  {done : List UInt16}

structure Ipv4Addr where
  a : UInt8
  b : UInt8
  c : UInt8
  d : UInt8
deriving DecidableEq

structure Ipv6Addr where
  segments : Vector UInt16 8
deriving DecidableEq

open List Nat

inductive IpAddr where
  | v4 (addr : Ipv4Addr)
  | v6 (addr : Ipv6Addr)
deriving DecidableEq

inductive SocketAddr where
  | v4 (ip : Ipv4Addr) (port : UInt16)
  | v6 (ip : Ipv6Addr) (port : UInt16) (flowinfo scopeId : UInt32)
deriving DecidableEq

namespace SocketAddr

def new (ip : IpAddr) (port : UInt16) : SocketAddr :=
  match ip with
  | .v4 addr => v4 addr port
  | .v6 addr => v6 addr port 0 0

def ip : SocketAddr → IpAddr
  | v4 addr _ => .v4 addr
  | v6 addr _ _ _ => .v6 addr

def port : SocketAddr → UInt16
  | v4 _ port => port
  | v6 _ port _ _ => port

def Plain : SocketAddr → Prop
  | v4 _ _ => True
  | v6 _ _ flowinfo scopeId => flowinfo = 0 ∧ scopeId = 0

theorem new_ip_port_iff (a : SocketAddr) : new a.ip a.port = a ↔ a.Plain := by
  cases a with
  | v4 addr port => simp [new, ip, SocketAddr.port, Plain]
  | v6 addr port flowinfo scopeId => simp [new, ip, SocketAddr.port, Plain, eq_comm]

variable (addr : IpAddr)

@[simp] theorem ip_new (p : UInt16) : (new addr p).ip = addr := by
  cases addr <;> rfl

@[simp] theorem port_new (p : UInt16) : (new addr p).port = p := by
  cases addr <;> rfl

end SocketAddr

abbrev Text := List Char

def Ipv4Addr.display (ip : Ipv4Addr) : Text :=
  Nat.toDigits 10 ip.a.toNat ++ '.' :: (Nat.toDigits 10 ip.b.toNat ++ '.' ::
    (Nat.toDigits 10 ip.c.toNat ++ '.' :: Nat.toDigits 10 ip.d.toNat))

structure Span where
  start : Nat := 0
  len : Nat := 0

def Span.grow (i : Nat) (current : Span) : Span :=
  if current.len = 0 then { start := i, len := 1 } else { current with len := current.len + 1 }

def Span.scan (state : Nat × Span × Span) (segment : UInt16) : Nat × Span × Span :=
  let (i, longest, current) := state
  if segment = 0 then
    let current := current.grow i
    (i + 1, if longest.len < current.len then current else longest, current)
  else (i + 1, longest, {})

def zeroes (segments : List UInt16) : Span := (segments.foldl Span.scan (0, {}, {})).2.1

def fmtSubslice : List UInt16 → Text
  | [] => []
  | [s] => Nat.toDigits 16 s.toNat
  | s :: t :: more => Nat.toDigits 16 s.toNat ++ ':' :: fmtSubslice (t :: more)

def toIpv4Mapped (segments : List UInt16) : Option Ipv4Addr :=
  match segments with
  | [0, 0, 0, 0, 0, 0xffff, x, y] =>
    some ⟨UInt8.ofNat (x.toNat / 256), UInt8.ofNat (x.toNat % 256),
      UInt8.ofNat (y.toNat / 256), UInt8.ofNat (y.toNat % 256)⟩
  | _ => none

def Ipv6Addr.display (ip : Ipv6Addr) : Text :=
  let segments := ip.segments.toList
  match toIpv4Mapped segments with
  | some v4 => ':' :: ':' :: 'f' :: 'f' :: 'f' :: 'f' :: ':' :: v4.display
  | none =>
    let z := zeroes segments
    if 1 < z.len then
      fmtSubslice (segments.take z.start) ++
        ':' :: ':' :: fmtSubslice (segments.drop (z.start + z.len))
    else fmtSubslice segments

def IpAddr.display : IpAddr → String
  | .v4 addr => String.ofList addr.display
  | .v6 addr => String.ofList addr.display

def toDigit (radix : Nat) (c : Char) : Option Nat :=
  let d := if '0' ≤ c ∧ c ≤ '9' then c.toNat - 48
    else if 'a' ≤ c ∧ c ≤ 'z' then c.toNat - 87
    else if 'A' ≤ c ∧ c ≤ 'Z' then c.toNat - 55
    else radix
  if d < radix then some d else none

def readDigits (radix : Nat) : Text → List Nat × Text
  | [] => ([], [])
  | c :: cs =>
    match toDigit radix c with
    | none => ([], c :: cs)
    | some d => (d :: (readDigits radix cs).1, (readDigits radix cs).2)

def readNumber (radix maxDigits : Nat) (allowZeroPrefix : Bool) (bound : Nat) (s : Text) :
    Option (Nat × Text) :=
  let (ds, r) := readDigits radix s
  let v := ds.foldl (fun acc d => acc * radix + d) 0
  if maxDigits < ds.length then none
  else if ds.length = 0 then none
  else if !allowZeroPrefix && s.head? == some '0' && decide (1 < ds.length) then none
  else if v < bound then some (v, r) else none

def readGivenChar (target : Char) : Text → Option Text
  | [] => none
  | c :: cs => if c = target then some cs else none

def readSeparator {α : Type} (sep : Char) (index : Nat) (inner : Text → Option α) (s : Text) :
    Option α :=
  if 0 < index then (readGivenChar sep s).bind inner else inner s

def readIpv4Addr (s : Text) : Option (Ipv4Addr × Text) := do
  let (a, s) ← readSeparator '.' 0 (readNumber 10 3 false 256) s
  let (b, s) ← readSeparator '.' 1 (readNumber 10 3 false 256) s
  let (c, s) ← readSeparator '.' 2 (readNumber 10 3 false 256) s
  let (d, s) ← readSeparator '.' 3 (readNumber 10 3 false 256) s
  pure (⟨UInt8.ofNat a, UInt8.ofNat b, UInt8.ofNat c, UInt8.ofNat d⟩, s)

/-- The groups of one side of an address, with at most `k` of its `limit`
groups left to read. An embedded IPv4 address takes two groups. -/
def readGroups (limit : Nat) : Nat → Text → List UInt16 × Bool × Text
  | 0, s => ([], false, s)
  | k + 1, s =>
    let i := limit - (k + 1)
    match (if i < limit - 1 then readSeparator ':' i readIpv4Addr s else none) with
    | some (v4, r) =>
      ([UInt16.ofNat (v4.a.toNat * 256 + v4.b.toNat),
        UInt16.ofNat (v4.c.toNat * 256 + v4.d.toNat)], true, r)
    | none =>
      match readSeparator ':' i (readNumber 16 4 true 65536) s with
      | none => ([], false, s)
      | some (g, r) =>
        let more := readGroups limit k r
        (UInt16.ofNat g :: more.1, more.2.1, more.2.2)

def Ipv6Addr.ofList (segments : List UInt16) : Option Ipv6Addr :=
  if h : segments.length = 8 then some ⟨⟨segments.toArray, by simpa using h⟩⟩ else none

def readIpv6Addr (s : Text) : Option (Ipv6Addr × Text) :=
  let (head, headIpv4, r) := readGroups 8 8 s
  if head.length = 8 then (Ipv6Addr.ofList head).map (·, r)
  else if headIpv4 then none
  else do
    let r ← readGivenChar ':' r
    let r ← readGivenChar ':' r
    let limit := 8 - (head.length + 1)
    let (tail, _, r) := readGroups limit limit r
    let ip ← Ipv6Addr.ofList (head ++ List.replicate (8 - head.length - tail.length) 0 ++ tail)
    pure (ip, r)

def readIpAddr (s : Text) : Option (IpAddr × Text) :=
  match readIpv4Addr s with
  | some (v4, r) => some (.v4 v4, r)
  | none => (readIpv6Addr s).map fun x => (.v6 x.1, x.2)

def IpAddr.parse (s : String) : Option IpAddr :=
  match readIpAddr s.toList with
  | some (ip, []) => some ip
  | _ => none

theorem toDigits_values (hb : 1 < b) (n : Nat) :
    ∃ xs, toDigits b n = xs.map digitChar ∧ (∀ x ∈ xs, x < b) ∧
      xs.foldl (fun acc d => acc * b + d) 0 = n ∧ (xs.head? = some 0 → xs = [0]) ∧ xs ≠ [] := by
  induction n using Nat.strongRecOn with
  | ind n ih =>
    rw [toDigits_eq_if hb]
    by_cases hn : n < b
    · refine ⟨[n], by simp [hn], by simpa using hn, by simp, by simp, by simp⟩
    · have hdiv : n / b < n := div_lt_self (by omega) hb
      obtain ⟨xs, he, hx, hv, hz, hne⟩ := ih (n / b) hdiv
      refine ⟨xs ++ [n % b], by simp [hn, he], ?_, ?_, ?_, by simp⟩
      · intro x hm
        rcases mem_append.mp hm with h | h
        · exact hx x h
        · rw [mem_singleton.mp h]
          exact mod_lt n (by omega)
      · rw [foldl_append, hv]
        simp only [foldl_cons, foldl_nil]
        rw [mul_comm]
        exact div_add_mod n b
      · intro hh
        have hhead : xs.head? = some 0 := by
          cases xs with
          | nil => exact absurd rfl hne
          | cons x more => simpa using hh
        have hzero : n / b = 0 := by
          rw [← hv, hz hhead]
          simp
        have : 0 < n / b := div_pos (by omega) (by omega)
        omega

theorem toDigit_digitChar {d : Nat} (hd : d < b) (hb : b ≤ 16) :
    toDigit b (digitChar d) = some d := by
  have hlt : d < 16 := by omega
  interval_cases d <;> simp [toDigit, digitChar, hd]

def DigitsEnd (b : Nat) (r : Text) : Prop := readDigits b r = ([], r)

theorem digitsEnd_nil (b : Nat) : DigitsEnd b [] := rfl

theorem digitsEnd_cons {c : Char} (r : Text) (h : toDigit b c = none) : DigitsEnd b (c :: r) := by
  simp [DigitsEnd, readDigits, h]

theorem readDigits_map (hb : b ≤ 16) {xs : List Nat} (hx : ∀ x ∈ xs, x < b) (hr : DigitsEnd b r) :
    readDigits b (xs.map digitChar ++ r) = (xs, r) := by
  induction xs with
  | nil => exact hr
  | cons x xs ih =>
    have hh := ih fun y hy => hx y (mem_cons_of_mem x hy)
    have hd := toDigit_digitChar (hx x mem_cons_self) hb
    simp [readDigits, hd, hh]

variable {allow : Bool}

theorem readNumber_toDigits {m bound n : Nat} (hb : 1 < b) (hb' : b ≤ 16)
    (hm : 0 < m) (hn : n < bound) (hlt : n < b ^ m) (hr : DigitsEnd b r) :
    readNumber b m allow bound (toDigits b n ++ r) = some (n, r) := by
  obtain ⟨xs, he, hx, hv, hz, hne⟩ := toDigits_values hb n
  have hlen : xs.length ≤ m := by
    have := toDigits_length b n m hm hlt
    rwa [he, length_map] at this
  have hhead : ((xs.map digitChar ++ r).head? = some '0' ∧ 1 < xs.length) → False := by
    rintro ⟨h0, h1⟩
    cases xs with
    | nil => exact hne rfl
    | cons x more =>
      have hx16 : x < 16 := by have := hx x mem_cons_self; omega
      have hx0 : x = 0 := by
        have hc : digitChar x = '0' := by simpa using h0
        interval_cases x <;> simp_all [digitChar]
      subst hx0
      have := hz (by simp)
      simp_all
  have hl0 : xs.length ≠ 0 := by simpa using hne
  rw [he, readNumber, readDigits_map hb' hx hr]
  have hguard : (!allow && (xs.map digitChar ++ r).head? == some '0' &&
      decide (1 < xs.length)) = false := by
    apply Bool.eq_false_iff.mpr
    intro h
    simp only [Bool.and_eq_true, beq_iff_eq, decide_eq_true_eq] at h
    exact hhead ⟨h.1.2, h.2⟩
  simp only [hv, hguard, hn, if_true, if_neg (by omega : ¬ m < xs.length), if_neg hl0]
  simp

theorem readDigits_suffix (b : Nat) (s : Text) : (readDigits b s).2 <:+ s := by
  induction s with
  | nil => exact suffix_refl []
  | cons c cs ih =>
    rw [readDigits]
    cases toDigit b c with
    | none => exact suffix_refl _
    | some d => exact ih.trans (suffix_cons c cs)

theorem readNumber_suffix {m bound v : Nat}
    (h : readNumber b m allow bound s = some (v, r)) : r <:+ s := by
  have hs := readDigits_suffix b s
  simp only [readNumber] at h
  split_ifs at h
  simp only [Option.some.injEq, Prod.mk.injEq] at h
  rwa [← h.2]

theorem readIpv4Addr_eq_none (h : '.' ∉ s) : readIpv4Addr s = none := by
  unfold readIpv4Addr
  cases hn : readNumber 10 3 false 256 s with
  | none => simp [readSeparator, hn]
  | some x =>
    obtain ⟨a, r⟩ := x
    have hr : '.' ∉ r := fun hm => h ((readNumber_suffix hn).subset hm)
    have hg : readGivenChar '.' r = none := by
      cases r with
      | nil => rfl
      | cons c cs =>
        have hc : ¬ c = '.' := fun e => hr (by simp [e])
        simp [readGivenChar, hc]
    simp [readSeparator, hn, hg]

theorem readIpv4Addr_display (ip : Ipv4Addr) (hr : DigitsEnd 10 r) :
    readIpv4Addr (ip.display ++ r) = some (ip, r) := by
  have hdot : ∀ t, DigitsEnd 10 ('.' :: t) := fun t => digitsEnd_cons t (by decide)
  have hnum : ∀ (x : UInt8) (t : Text), DigitsEnd 10 t →
      readNumber 10 3 false 256 (toDigits 10 x.toNat ++ t) = some (x.toNat, t) := by
    intro x t ht
    have hx := x.toNat_lt
    exact readNumber_toDigits (by omega) (by omega) (by omega) (by omega) (by omega) ht
  simp [readIpv4Addr, Ipv4Addr.display, readSeparator, readGivenChar, hnum _ _ (hdot _), hnum _ _ hr]

def separated (gs : List UInt16) : Text := gs.flatMap fun g => ':' :: Nat.toDigits 16 g.toNat

variable (g : UInt16)

theorem fmtSubslice_cons (gs : List UInt16) :
    fmtSubslice (g :: gs) = toDigits 16 g.toNat ++ separated gs := by
  induction gs generalizing g with
  | nil => simp [fmtSubslice, separated]
  | cons t more ih => simp [fmtSubslice, ih t, separated]

/-- No group can be read at `r`: the text ends, or an elision starts. -/
def GroupsEnd (r : Text) : Prop := r = [] ∨ ∃ t, r = ':' :: ':' :: t

theorem GroupsEnd.digits (h : GroupsEnd r) : DigitsEnd 16 r := by
  rcases h with rfl | ⟨t, rfl⟩
  · exact digitsEnd_nil 16
  · exact digitsEnd_cons _ (by decide)

theorem readNumber_colon (m bound : Nat) (allow : Bool) (t : Text) :
    readNumber 16 m allow bound (':' :: t) = none := by
  have hd : toDigit 16 ':' = none := by decide
  simp [readNumber, readDigits, hd]

theorem readNumber_group (hr : DigitsEnd 16 r) :
    readNumber 16 4 true 65536 (toDigits 16 g.toNat ++ r) = some (g.toNat, r) := by
  have hg := g.toNat_lt
  exact readNumber_toDigits (by omega) (by omega) (by omega) (by omega) (by omega) hr

variable (gs : List UInt16)

theorem separated_digitsEnd (hr : GroupsEnd r) : DigitsEnd 16 (separated gs ++ r) := by
  cases gs with
  | nil => exact hr.digits
  | cons g gs => exact digitsEnd_cons _ (by decide)

theorem dot_notMem_toDigits (n : Nat) : '.' ∉ toDigits 16 n := by
  obtain ⟨xs, he, hx, -⟩ := toDigits_values (b := 16) (by omega) n
  rw [he]
  intro hm
  obtain ⟨x, hmem, hc⟩ := mem_map.mp hm
  have hlt := hx x hmem
  interval_cases x <;> simp [digitChar] at hc

theorem dot_notMem_separated : '.' ∉ separated gs := by
  intro hm
  obtain ⟨g, -, hg⟩ := mem_flatMap.mp hm
  rcases mem_cons.mp hg with h | h
  · simp at h
  · exact dot_notMem_toDigits _ h

theorem dot_notMem_fmtSubslice : '.' ∉ fmtSubslice gs := by
  cases gs with
  | nil => simp [fmtSubslice]
  | cons g gs =>
    rw [fmtSubslice_cons]
    intro hm
    rcases mem_append.mp hm with h | h
    · exact dot_notMem_toDigits _ h
    · exact dot_notMem_separated _ h

theorem readSeparator_ipv4_none {i : Nat} (h : '.' ∉ s) :
    readSeparator ':' i readIpv4Addr s = none := by
  unfold readSeparator
  split_ifs
  · cases s with
    | nil => rfl
    | cons c cs =>
      have hcs : '.' ∉ cs := fun hm => h (mem_cons_of_mem c hm)
      by_cases hc : c = ':' <;> simp [readGivenChar, hc, readIpv4Addr_eq_none hcs]
  · exact readIpv4Addr_eq_none h

theorem readGroups_succ (h : '.' ∉ s) : readGroups limit (k + 1) s =
      match readSeparator ':' (limit - (k + 1)) (readNumber 16 4 true 65536) s with
      | none => ([], false, s)
      | some (g, r) =>
        (UInt16.ofNat g :: (readGroups limit k r).1, (readGroups limit k r).2.1,
          (readGroups limit k r).2.2) := by
  rw [readGroups]
  simp only [readSeparator_ipv4_none h, ite_self]

theorem readGroups_end (hr : GroupsEnd r) (hd : '.' ∉ r) :
    readGroups limit k r = ([], false, r) := by
  cases k with
  | zero => rfl
  | succ k =>
    have hn : readSeparator ':' (limit - (k + 1)) (readNumber 16 4 true 65536) r = none := by
      unfold readSeparator
      rcases hr with rfl | ⟨t, rfl⟩
      · split_ifs <;> rfl
      · split_ifs <;> simp [readGivenChar, readNumber_colon]
    rw [readGroups_succ hd, hn]

theorem readGroups_separated {gs : List UInt16} (hk : k < limit) (hlen : gs.length ≤ k)
    (hr : GroupsEnd r) (hd : '.' ∉ r) :
    readGroups limit k (separated gs ++ r) = (gs, false, r) := by
  induction gs generalizing k with
  | nil => exact readGroups_end hr hd
  | cons g gs ih =>
    obtain ⟨k, rfl⟩ : ∃ j, k = j + 1 := ⟨k - 1, by simp at hlen; omega⟩
    have hdot : '.' ∉ separated (g :: gs) ++ r := by simp [mem_append, dot_notMem_separated, hd]
    have hs : separated (g :: gs) ++ r = ':' :: (toDigits 16 g.toNat ++ (separated gs ++ r)) := by
      simp [separated]
    have hn : readSeparator ':' (limit - (k + 1)) (readNumber 16 4 true 65536)
        (separated (g :: gs) ++ r) = some (g.toNat, separated gs ++ r) := by
      rw [hs, readSeparator, if_pos (by omega)]
      exact readNumber_group g (separated_digitsEnd gs hr)
    have hi := ih (k := k) (by omega) (by simp at hlen; omega)
    rw [readGroups_succ hdot, hn]
    simp [hi]

theorem readGroups_fmtSubslice (hlen : gs.length ≤ k)
    (hr : GroupsEnd r) (hd : '.' ∉ r) : readGroups k k (fmtSubslice gs ++ r) = (gs, false, r) := by
  cases gs with
  | nil => exact readGroups_end hr hd
  | cons g gs =>
    obtain ⟨k, rfl⟩ : ∃ j, k = j + 1 := ⟨k - 1, by simp at hlen; omega⟩
    have hdot : '.' ∉ fmtSubslice (g :: gs) ++ r := by simp [mem_append, dot_notMem_fmtSubslice, hd]
    have hn : readSeparator ':' (k + 1 - (k + 1)) (readNumber 16 4 true 65536)
        (fmtSubslice (g :: gs) ++ r) = some (g.toNat, separated gs ++ r) := by
      rw [fmtSubslice_cons, append_assoc, readSeparator, if_neg (by omega)]
      exact readNumber_group g (separated_digitsEnd gs hr)
    have hi := readGroups_separated (k := k) (lt_succ_self k) (by simp at hlen; omega) hr hd
    rw [readGroups_succ hdot, hn]
    simp [hi]

def Span.Zero (segments : List UInt16) (sp : Span) : Prop :=
  ∀ j, sp.start ≤ j → j < sp.start + sp.len → segments[j]? = some 0

theorem Span.Zero.append (h : sp.Zero segs) (more : List UInt16) : sp.Zero (segs ++ more) := by
  intro j h1 h2
  have hj := h j h1 h2
  have hlt : j < segs.length := by
    by_contra hge
    rw [getElem?_eq_none (by omega)] at hj
    simp at hj
  rw [getElem?_append_left hlt, hj]

structure Span.Scanned (done : List UInt16) (state : Nat × Span × Span) : Prop where
  index : state.1 = done.length
  longest : state.2.1.Zero done
  current : state.2.2.Zero done
  reaches : state.2.2.len = 0 ∨ state.2.2.start + state.2.2.len = done.length

variable {current : Span}

theorem Span.grow_reaches {n : Nat} (hr : current.len = 0 ∨ current.start + current.len = n) :
    (current.grow n).start + (current.grow n).len = n + 1 := by
  unfold grow
  split_ifs
  · rfl
  · simp only
    omega

theorem Span.Zero.grow (hc : current.Zero done)
    (hr : current.len = 0 ∨ current.start + current.len = done.length) :
    (current.grow done.length).Zero (done ++ [0]) := by
  intro j h1 h2
  have hreach := Span.grow_reaches hr
  by_cases hj : j = done.length
  · simp [hj]
  · have hlt : j < done.length := by omega
    rw [getElem?_append_left hlt]
    unfold Span.grow at h1 h2
    split_ifs at h1 h2
    · simp only at h1
      omega
    · simp only at h1 h2
      exact hc j h1 (by omega)

variable {state : Nat × Span × Span}

theorem Span.Scanned.step (h : Span.Scanned done state)
    (segment : UInt16) : Span.Scanned (done ++ [segment]) (scan state segment) := by
  obtain ⟨i, longest, current⟩ := state
  obtain ⟨hi, hl, hc, hr⟩ := h
  simp only at hi hl hc hr
  subst hi
  by_cases hs : segment = 0
  · subst hs
    have hnext := hc.grow hr
    have hreach := grow_reaches hr
    refine ⟨by simp [scan], ?_, by simpa [scan] using hnext, .inr (by simpa [scan] using hreach)⟩
    simp only [scan, if_true]
    split_ifs
    · exact hnext
    · exact hl.append [0]
  · refine ⟨by simp [scan, hs], by simpa [scan, hs] using hl.append [segment], ?_, ?_⟩
    · intro j h1 h2
      simp [scan, hs] at h2
    · simp [scan, hs]

theorem Span.Scanned.run (segs : List UInt16) (h : Span.Scanned done state) :
    Span.Scanned (done ++ segs) (segs.foldl scan state) := by
  induction segs generalizing done state with
  | nil => simpa using h
  | cons segment segs ih => simpa using ih (h.step segment)

theorem zeroes_zero (segs : List UInt16) : (zeroes segs).Zero segs := by
  have h0 : Span.Scanned [] (0, {}, {}) := by
    refine ⟨rfl, ?_, ?_, .inl rfl⟩ <;> intro j h1 h2 <;> simp at h2
  exact (h0.run segs).longest

theorem Span.Zero.fits (h : sp.Zero segs) (hlen : 0 < sp.len) :
    sp.start + sp.len ≤ segs.length := by
  have hj := h (sp.start + sp.len - 1) (by omega) (by omega)
  by_contra hge
  rw [getElem?_eq_none (by omega)] at hj
  simp at hj

theorem Span.Zero.split (h : sp.Zero segs) (hlen : 0 < sp.len) :
    segs.take sp.start ++ replicate sp.len 0 ++ segs.drop (sp.start + sp.len) = segs := by
  have hfit := h.fits hlen
  have hmid : (segs.drop sp.start).take sp.len = replicate sp.len 0 := by
    apply ext_getElem?
    intro j
    by_cases hj : j < sp.len
    · rw [getElem?_take_of_lt hj, getElem?_drop, h _ (by omega) (by omega),
        getElem?_replicate_of_lt hj]
    · rw [getElem?_eq_none (by simp; omega), getElem?_eq_none (by simp; omega)]
  rw [← hmid, append_assoc, ← drop_drop, take_append_drop, take_append_drop]

variable (ip : Ipv6Addr)

theorem Ipv6Addr.ofList_toList : ofList ip.segments.toList = some ip := by
  obtain ⟨⟨arr, harr⟩⟩ := ip
  simp [ofList, harr]

theorem toIpv4Mapped_some {v4 : Ipv4Addr} (h : toIpv4Mapped segs = some v4) :
    segs = [0, 0, 0, 0, 0, 0xffff, UInt16.ofNat (v4.a.toNat * 256 + v4.b.toNat),
      UInt16.ofNat (v4.c.toNat * 256 + v4.d.toNat)] := by
  unfold toIpv4Mapped at h
  split at h
  · rename_i x y
    have hx := x.toNat_lt
    have hy := y.toNat_lt
    simp only [Option.some.injEq] at h
    subst h
    have hs : ∀ z, z.toNat < 65536 →
        UInt16.ofNat ((UInt8.ofNat (z.toNat / 256)).toNat * 256 +
          (UInt8.ofNat (z.toNat % 256)).toNat) = z := by
      intro z hz
      rw [UInt8.toNat_ofNat', UInt8.toNat_ofNat', mod_eq_of_lt (by omega), mod_eq_of_lt (by omega),
        div_add_mod' z.toNat 256, UInt16.ofNat_toNat]
    rw [hs x hx, hs y hy]
  · simp at h

theorem readGroups_mapped (v4 : Ipv4Addr) :
    readGroups 7 7 ('f' :: 'f' :: 'f' :: 'f' :: ':' :: v4.display) =
      ([0xffff, UInt16.ofNat (v4.a.toNat * 256 + v4.b.toNat),
        UInt16.ofNat (v4.c.toNat * 256 + v4.d.toNat)], true, []) := by
  have hf : toDigit 10 'f' = none := by decide
  have h4 : readIpv4Addr ('f' :: 'f' :: 'f' :: 'f' :: ':' :: v4.display) = none := by
    simp [readIpv4Addr, readSeparator, readNumber, readDigits, hf]
  have hn := readNumber_group 0xffff (r := ':' :: v4.display) (digitsEnd_cons _ (by decide))
  have hff : toDigits 16 (0xffff : UInt16).toNat = ['f', 'f', 'f', 'f'] := by decide
  rw [hff] at hn
  have hd := readIpv4Addr_display v4 (digitsEnd_nil 10)
  rw [append_nil] at hd
  simp only [cons_append, nil_append] at hn
  simp [readGroups, readSeparator, readGivenChar, h4, hn, hd]

theorem readIpv6Addr_elided {t : Text} {head tail : List UInt16} {embedded : Bool} {ip : Ipv6Addr}
    (hhead : readGroups 8 8 s = (head, false, ':' :: ':' :: t)) (hlen : head.length ≠ 8)
    (htail : readGroups (8 - (head.length + 1)) (8 - (head.length + 1)) t = (tail, embedded, []))
    (hip : Ipv6Addr.ofList
      (head ++ replicate (8 - head.length - tail.length) 0 ++ tail) = some ip) :
    readIpv6Addr s = some (ip, []) := by
  simp only [readIpv6Addr, hhead, if_neg hlen, readGivenChar, htail, hip, if_true,
    Bool.false_eq_true, if_false, Option.bind_eq_bind, Option.bind_some, Option.pure_def]

theorem readIpv6Addr_display : readIpv6Addr ip.display = some (ip, []) := by
  have hof := ip.ofList_toList
  have hlen : ip.segments.toList.length = 8 := by simp
  simp only [Ipv6Addr.display]
  generalize ip.segments.toList = segs at *
  cases hm : toIpv4Mapped segs with
  | some v4 =>
    rw [toIpv4Mapped_some hm] at hof
    have h4 : ∀ t, readIpv4Addr (':' :: t) = none := fun t => by
      simp [readIpv4Addr, readSeparator, readNumber, readDigits, (by decide : toDigit 10 ':' = none)]
    have hhead : ∀ t, readGroups 8 8 (':' :: t) = ([], false, ':' :: t) := fun t => by
      simp [readGroups, readSeparator, h4, readNumber_colon]
    exact readIpv6Addr_elided (hhead _) (by simp) (readGroups_mapped v4) hof
  | none =>
    have hz := zeroes_zero segs
    generalize zeroes segs = z at *
    simp only
    split_ifs with h1
    · have hfit := hz.fits (by omega)
      have htl : (segs.take z.start).length = z.start := by simp; omega
      have hdl : (segs.drop (z.start + z.len)).length = 8 - (z.start + z.len) := by simp [hlen]
      have hdot := dot_notMem_fmtSubslice (segs.drop (z.start + z.len))
      have hhead := readGroups_fmtSubslice (k := 8) (segs.take z.start)
        (r := ':' :: ':' :: fmtSubslice (segs.drop (z.start + z.len)))
        (by omega) (.inr ⟨_, rfl⟩) (by simp [hdot])
      have htail := readGroups_fmtSubslice (k := 8 - ((segs.take z.start).length + 1))
        (segs.drop (z.start + z.len)) (r := []) (by omega) (.inl rfl) (by simp)
      rw [append_nil] at htail
      refine readIpv6Addr_elided hhead (by omega) htail ?_
      rw [show 8 - (segs.take z.start).length - (segs.drop (z.start + z.len)).length = z.len
        by omega, hz.split (by omega)]
      exact hof
    · have hhead := readGroups_fmtSubslice (k := 8) segs (r := []) (by omega) (.inl rfl) (by simp)
      rw [append_nil] at hhead
      simp [readIpv6Addr, hhead, hof, hlen]

theorem readIpv4Addr_ipv6_display : readIpv4Addr ip.display = none := by
  simp only [Ipv6Addr.display]
  generalize ip.segments.toList = segs
  cases toIpv4Mapped segs with
  | some v4 =>
    simp [readIpv4Addr, readSeparator, readNumber, readDigits, (by decide : toDigit 10 ':' = none)]
  | none =>
    simp only
    apply readIpv4Addr_eq_none
    split_ifs <;> simp [dot_notMem_fmtSubslice]

theorem IpAddr.parse_display (ip : IpAddr) : parse ip.display = some ip := by
  cases ip with
  | v4 addr =>
    have h := readIpv4Addr_display addr (digitsEnd_nil 10)
    rw [append_nil] at h
    simp [parse, display, readIpAddr, h]
  | v6 addr => simp [parse, display, readIpAddr, readIpv4Addr_ipv6_display, readIpv6Addr_display]

example : IpAddr.parse "203.0.113.7" = some (.v4 ⟨203, 0, 113, 7⟩) := by decide

example : IpAddr.display (.v6 ⟨#v[0x2001, 0xdb8, 0, 0, 0, 0, 0, 1]⟩) = "2001:db8::1" := by decide

end Phux

import Mathlib.Data.List.TakeWhile
import Phux.Json
import Phux.SocketAddr
import Phux.WirePrimitives

/-! The compact text of JSON objects: what a codec must do for a line put together
from printed parts to read back, and a codec for objects of two levels that does. -/

namespace Phux

open ByteReader List

variable {ms : List (String × JsonValue)} {v : JsonValue} {bytes rest : Bytes} {s : String}
  {p : JsonValue → Prop}

def isWordByte (b : UInt8) : Bool :=
  (48 ≤ b && b ≤ 57) || (65 ≤ b && b ≤ 90) || b = 95 || (97 ≤ b && b ≤ 122)

/-- Letters, digits and underscores only: a string no codec escapes. -/
def PlainWord (word : String) : Prop := ∀ b ∈ strBytes word, isWordByte b = true

instance (word : String) : Decidable (PlainWord word) :=
  inferInstanceAs (Decidable (∀ b ∈ strBytes word, isWordByte b = true))

def quoted (word : String) : Bytes := 34 :: (strBytes word ++ [34])

def membersText (print : JsonValue → Bytes) : List (String × JsonValue) → Bytes
  | [] => [125]
  | [(key, value)] => quoted key ++ 58 :: (print value ++ [125])
  | (key, value) :: next :: members =>
    quoted key ++ 58 :: (print value ++ 44 :: membersText print (next :: members))

def objectText (print : JsonValue → Bytes) (members : List (String × JsonValue)) : Bytes :=
  123 :: membersText print members

theorem quoted_line (h : PlainWord s) : 10 ∉ quoted s := by
  intro hmem
  have hbyte : 10 ∈ strBytes s := by simpa [quoted] using hmem
  exact absurd (h 10 hbyte) (by decide)

theorem membersText_line {print : JsonValue → Bytes} (hprint : ∀ v, 10 ∉ print v)
    (h : ∀ m ∈ ms, PlainWord m.1) : 10 ∉ membersText print ms := by
  fun_induction membersText print ms with
  | case1 => decide
  | case2 key value =>
    have hkey := quoted_line (h (key, value) mem_cons_self)
    simp [hkey, hprint]
  | case3 key value next ms ih =>
    have hkey := quoted_line (h (key, value) mem_cons_self)
    have hrest := ih fun m hm => h m (mem_cons_of_mem _ hm)
    simp [hkey, hprint, hrest]

namespace JsonCodec

inductive Readable (json : JsonCodec) : JsonValue → Prop where
  | number (n : UInt64) : Readable json (.number (.posInt n))
  | word {s : String} : PlainWord s → Readable json (.string s)
  | emptyObject : Readable json (.object [])
  | member {text : Bytes} {members : List (String × JsonValue)} {key : String} {v : JsonValue} :
    json.parse text = .ok (.object members) → members.lookup key = some v → Readable json v

/-- The codec parses what it prints: an object written member by member reads back. -/
structure Lawful (json : JsonCodec) : Prop where
  print_number : ∀ n, json.print (.number (.posInt n)) = decimal n
  print_line : ∀ v, 10 ∉ json.print v
  parse_object : ∀ members, (members.map Prod.fst).Nodup →
    (∀ m ∈ members, PlainWord m.1 ∧ json.Readable m.2) →
    ∃ found, json.parse (objectText json.print members) = .ok (.object found) ∧
      ∀ key, found.lookup key = members.lookup key

end JsonCodec

/-! A codec for objects whose members are words, numbers and objects of those. -/

namespace FlatJson

def printWord (s : String) : Bytes := if PlainWord s then quoted s else [34, 34]

def printScalar : JsonValue → Bytes
  | .number (.posInt n) => decimal n
  | .string s => printWord s
  | _ => [110, 117, 108, 108]

def plainMembers (members : List (String × JsonValue)) : List (String × JsonValue) :=
  members.filter fun m => PlainWord m.1

def printFlat : JsonValue → Bytes
  | .object members => objectText printScalar (plainMembers members)
  | v => printScalar v

abbrev Reads (α : Type) := Bytes → Option (α × Bytes)

def readWord : Reads String
  | 34 :: rest =>
    match rest.dropWhile isWordByte with
    | 34 :: more => (fromUtf8 (rest.takeWhile isWordByte)).map fun s => (s, more)
    | _ => none
  | _ => none

def isDigit (b : UInt8) : Bool := 48 ≤ b && b ≤ 57

def digitsValue (digits : Bytes) : Nat := digits.foldl (fun acc d => acc * 10 + (d.toNat - 48)) 0

def readNumber : Reads UInt64 := fun bytes =>
  let digits := bytes.takeWhile isDigit
  if digits ≠ [] ∧ digitsValue digits < 18446744073709551616 then
    some (UInt64.ofNat (digitsValue digits), bytes.dropWhile isDigit)
  else none

def readScalar : Reads JsonValue := fun bytes =>
  match bytes with
  | 34 :: _ => (readWord bytes).map fun (s, rest) => (.string s, rest)
  | _ => (readNumber bytes).map fun (n, rest) => (.number (.posInt n), rest)

/-- The members of an object that has some, at most `fuel` of them. -/
def readMembers (read : Reads JsonValue) : Nat → Reads (List (String × JsonValue))
  | 0, _ => none
  | fuel + 1, bytes =>
    match readWord bytes with
    | some (key, 58 :: rest) =>
      match read rest with
      | some (v, 125 :: rest) => some ([(key, v)], rest)
      | some (v, 44 :: rest) =>
        (readMembers read fuel rest).map fun (members, rest) => ((key, v) :: members, rest)
      | _ => none
    | _ => none

def readObject (read : Reads JsonValue) : Reads (List (String × JsonValue))
  | 123 :: 125 :: rest => some ([], rest)
  | 123 :: rest => readMembers read rest.length rest
  | _ => none

def readFlat : Reads JsonValue := fun bytes =>
  match bytes with
  | 123 :: _ => (readObject readScalar bytes).map fun (members, rest) => (.object members, rest)
  | _ => readScalar bytes

def parse (text : Bytes) : Except String JsonValue :=
  match readObject readFlat text with
  | some (members, []) => .ok (.object members)
  | _ => .error "expected an object of words, numbers and flat objects"

def print : JsonValue → Bytes
  | .object members => objectText printFlat (plainMembers members)
  | v => printScalar v

def codec : JsonCodec := ⟨parse, print⟩

def ReadsBack (read : Reads JsonValue) (print : JsonValue → Bytes) (v : JsonValue) : Prop :=
  ∀ b rest, b = 44 ∨ b = 125 → read (print v ++ b :: rest) = some (v, b :: rest)

theorem readWord_quoted (h : PlainWord s) (rest : Bytes) :
    readWord (quoted s ++ rest) = some (s, rest) := by
  have hstop : isWordByte 34 = false := by decide
  have htake : (strBytes s ++ 34 :: rest).takeWhile isWordByte = strBytes s := by
    rw [takeWhile_append_of_pos h, takeWhile_cons_of_neg (by simp [hstop]), append_nil]
  have hdrop : (strBytes s ++ 34 :: rest).dropWhile isWordByte = 34 :: rest := by
    rw [dropWhile_append_of_pos h, dropWhile_cons_of_neg (by simp [hstop])]
  simp [quoted, readWord, htake, hdrop]

theorem digitChar_byte {x : Nat} (h : x < 10) :
    isDigit (Nat.digitChar x).toUInt8 = true ∧ (Nat.digitChar x).toUInt8.toNat - 48 = x := by
  interval_cases x <;> decide

variable (n : UInt64)

theorem decimal_digits :
    (∀ b ∈ decimal n, isDigit b = true) ∧ digitsValue (decimal n) = n.toNat ∧ decimal n ≠ [] := by
  obtain ⟨xs, hxs, hlt, hvalue, -, hne⟩ := toDigits_values (b := 10) (by decide) n.toNat
  have hbytes : decimal n = xs.map fun x => (Nat.digitChar x).toUInt8 := by
    simp [decimal, hxs, Function.comp_def]
  refine ⟨?_, ?_, by simpa [hbytes] using hne⟩
  · intro b hb
    obtain ⟨x, hx, rfl⟩ := mem_map.mp (hbytes ▸ hb)
    exact (digitChar_byte (hlt x hx)).1
  · rw [hbytes, digitsValue, foldl_map, ← hvalue]
    exact foldl_ext _ _ _ fun acc x hx => by rw [(digitChar_byte (hlt x hx)).2]

theorem readNumber_decimal {b : UInt8} (hb : isDigit b = false) (rest : Bytes) :
    readNumber (decimal n ++ b :: rest) = some (n, b :: rest) := by
  obtain ⟨hdigits, hvalue, hne⟩ := decimal_digits n
  have htake : (decimal n ++ b :: rest).takeWhile isDigit = decimal n := by
    rw [takeWhile_append_of_pos hdigits, takeWhile_cons_of_neg (by simp [hb]), append_nil]
  have hdrop : (decimal n ++ b :: rest).dropWhile isDigit = b :: rest := by
    rw [dropWhile_append_of_pos hdigits, dropWhile_cons_of_neg (by simp [hb])]
  have hlt : n.toNat < 18446744073709551616 := n.toNat_lt
  simp only [readNumber, htake, hdrop, hvalue]
  rw [if_pos ⟨hne, hlt⟩, UInt64.ofNat_toNat]

section

variable {read : Reads JsonValue} {print : JsonValue → Bytes}

theorem length_le_membersText (print : JsonValue → Bytes) (ms : List (String × JsonValue)) :
    ms.length ≤ (membersText print ms).length := by
  fun_induction membersText print ms with
  | case1 => simp
  | case2 => simp; omega
  | case3 key value next ms ih => simp at ih ⊢; omega

variable {fuel : Nat}

theorem readMembers_text (rest : Bytes) (hne : ms ≠ [])
    (hfuel : ms.length ≤ fuel) (h : ∀ m ∈ ms, PlainWord m.1 ∧ ReadsBack read print m.2) :
    readMembers read fuel (membersText print ms ++ rest) = some (ms, rest) := by
  induction ms generalizing fuel with
  | nil => exact absurd rfl hne
  | cons m ms ih =>
    obtain ⟨key, value⟩ := m
    obtain ⟨hkey, hvalue⟩ := h (key, value) mem_cons_self
    obtain ⟨fuel, rfl⟩ : ∃ f, fuel = f + 1 := ⟨fuel - 1, by simp at hfuel; omega⟩
    cases ms with
    | nil =>
      have hread := hvalue 125 rest (.inr rfl)
      simp [membersText, readMembers, readWord_quoted hkey, hread]
    | cons next ms =>
      have hrest := ih (by simp) (by simpa using hfuel) fun m hm => h m (mem_cons_of_mem _ hm)
      have hread := hvalue 44 (membersText print (next :: ms) ++ rest) (.inl rfl)
      simp [membersText, readMembers, readWord_quoted hkey, hread, hrest]

theorem readObject_text (rest : Bytes) (h : ∀ m ∈ ms, PlainWord m.1 ∧ ReadsBack read print m.2) :
    readObject read (objectText print ms ++ rest) = some (ms, rest) := by
  cases ms with
  | nil => rfl
  | cons m ms =>
    have hlen := length_le_membersText print (m :: ms)
    have hfuel : (m :: ms).length ≤ (membersText print (m :: ms) ++ rest).length := by
      rw [length_append]
      omega
    have hread := readMembers_text rest (by simp) hfuel h
    have hhead : ∃ more, membersText print (m :: ms) = 34 :: more := by
      cases ms <;> exact ⟨_, rfl⟩
    obtain ⟨more, hmore⟩ := hhead
    rw [hmore] at hread
    simpa [objectText, hmore, readObject] using hread

theorem readWord_plain (h : readWord bytes = some (s, rest)) : PlainWord s := by
  unfold readWord at h
  split at h
  · rename_i bytes
    split at h
    · obtain ⟨s', hs, he⟩ := Option.map_eq_some_iff.mp h
      obtain ⟨rfl, -⟩ := Prod.mk.inj he
      intro b hb
      rw [strBytes_of_fromUtf8 hs] at hb
      exact mem_takeWhile_imp hb
    · cases h
  · cases h

theorem readMembers_sound (hread : ∀ bytes v rest, read bytes = some (v, rest) → p v)
    (h : readMembers read fuel bytes = some (ms, rest)) : ∀ m ∈ ms, PlainWord m.1 ∧ p m.2 := by
  induction fuel generalizing bytes rest ms with
  | zero => cases h
  | succ fuel ih =>
    unfold readMembers at h
    split at h
    · rename_i key body hkey
      have hword := readWord_plain hkey
      split at h
      · rename_i v rest' hv
        cases h
        simpa using ⟨hword, hread _ _ _ hv⟩
      · rename_i v rest' hv
        obtain ⟨⟨found, more⟩, hmore, he⟩ := Option.map_eq_some_iff.mp h
        cases he
        simpa using ⟨⟨hword, hread _ _ _ hv⟩, fun key v hm => ih hmore (key, v) hm⟩
      · cases h
    · cases h

theorem readObject_sound (hread : ∀ bytes v rest, read bytes = some (v, rest) → p v)
    (h : readObject read bytes = some (ms, rest)) : ∀ m ∈ ms, PlainWord m.1 ∧ p m.2 := by
  unfold readObject at h
  split at h
  · cases h
    simp
  · exact readMembers_sound hread h
  · cases h

end

def Scalar : JsonValue → Prop
  | .number (.posInt _) => True
  | .string s => PlainWord s
  | _ => False

inductive Flat : JsonValue → Prop where
  | scalar {v : JsonValue} : Scalar v → Flat v
  | object {members : List (String × JsonValue)} :
    (∀ m ∈ members, PlainWord m.1 ∧ Scalar m.2) → Flat (.object members)

theorem readScalar_sound (h : readScalar bytes = some (v, rest)) : Scalar v := by
  unfold readScalar at h
  split at h
  · obtain ⟨⟨s, more⟩, hs, he⟩ := Option.map_eq_some_iff.mp h
    cases he
    exact readWord_plain hs
  · obtain ⟨⟨n, more⟩, -, he⟩ := Option.map_eq_some_iff.mp h
    cases he
    trivial

theorem readFlat_sound (h : readFlat bytes = some (v, rest)) : Flat v := by
  unfold readFlat at h
  split at h
  · obtain ⟨⟨ms, more⟩, hm, he⟩ := Option.map_eq_some_iff.mp h
    cases he
    exact .object (readObject_sound (fun _ _ _ => readScalar_sound) hm)
  · exact .scalar (readScalar_sound h)

theorem readFlat_of_readScalar (h : readScalar bytes = some (v, rest)) :
    readFlat bytes = some (v, rest) := by
  unfold readFlat
  split
  · simp [readScalar, readNumber, isDigit] at h
  · exact h

theorem scalar_readsBack (h : Scalar v) : ReadsBack readScalar printScalar v := by
  intro b rest hb
  have hstop : isDigit b = false := by rcases hb with rfl | rfl <;> decide
  unfold Scalar at h
  split at h
  · rename_i n
    obtain ⟨hdigits, -, hne⟩ := decimal_digits n
    have hread := readNumber_decimal n hstop rest
    obtain ⟨d, ds, hd⟩ := exists_cons_of_ne_nil hne
    have hquote : d ≠ 34 := by
      rintro rfl
      exact absurd (hdigits 34 (by simp [hd])) (by decide)
    rw [hd] at hread
    simpa [printScalar, hd, readScalar, hquote] using hread
  · rename_i s
    have hread := readWord_quoted h (b :: rest)
    simpa [printScalar, printWord, h, quoted, readScalar] using hread
  · exact h.elim

theorem plainMembers_eq (h : ∀ m ∈ ms, PlainWord m.1 ∧ p m.2) : plainMembers ms = ms :=
  filter_eq_self.mpr fun m hm => by simpa using (h m hm).1

theorem printFlat_scalar (h : Scalar v) : printFlat v = printScalar v := by
  cases v <;> first | rfl | exact h.elim

theorem membersText_congr {print print' : JsonValue → Bytes}
    (h : ∀ m ∈ ms, print m.2 = print' m.2) : membersText print ms = membersText print' ms := by
  fun_induction membersText print ms with
  | case1 => rfl
  | case2 key value => simp [membersText, h (key, value) mem_cons_self]
  | case3 key value next ms ih =>
    simp [membersText, h (key, value) mem_cons_self, ih fun m hm => h m (mem_cons_of_mem _ hm)]

theorem flat_readsBack (h : Flat v) : ReadsBack readFlat print v := by
  intro b rest hb
  cases h with
  | @scalar v hv =>
    have htext : print v = printScalar v := by
      cases v <;> first | rfl | exact hv.elim
    rw [htext]
    exact readFlat_of_readScalar (scalar_readsBack hv b rest hb)
  | @object ms hm =>
    have htext : print (.object ms) = objectText printScalar ms := by
      rw [print, plainMembers_eq hm, objectText, objectText,
        membersText_congr fun m h => printFlat_scalar (hm m h).2]
    have hread := readObject_text (b :: rest) fun m h =>
      (⟨(hm m h).1, scalar_readsBack (hm m h).2⟩ : PlainWord m.1 ∧ ReadsBack _ _ m.2)
    rw [htext]
    simp only [objectText, cons_append] at hread ⊢
    simp [readFlat, hread]

theorem parse_text (h : ∀ m ∈ ms, PlainWord m.1 ∧ Flat m.2) :
    parse (objectText print ms) = .ok (.object ms) := by
  have hread := readObject_text [] fun m hm =>
    (⟨(h m hm).1, flat_readsBack (h m hm).2⟩ : PlainWord m.1 ∧ ReadsBack _ _ m.2)
  rw [append_nil] at hread
  simp [parse, hread]

theorem readable_flat (h : codec.Readable v) : Flat v := by
  cases h with
  | number n => exact .scalar trivial
  | word hs => exact .scalar hs
  | emptyObject => exact .object (by simp)
  | @member text ms key _ hparse hlookup =>
    simp only [codec, parse] at hparse
    split at hparse
    · rename_i found hread
      cases hparse
      obtain ⟨before, after, rfl, -⟩ := lookup_eq_some_iff.mp hlookup
      exact (readObject_sound (fun _ _ _ => readFlat_sound) hread (key, v) (by simp)).2
    · cases hparse

variable (v)

theorem printScalar_line : 10 ∉ printScalar v := by
  unfold printScalar
  split
  · rename_i n
    intro hmem
    exact absurd ((decimal_digits n).1 10 hmem) (by decide)
  · rename_i s
    unfold printWord
    by_cases hs : PlainWord s
    · rw [if_pos hs]
      exact quoted_line hs
    · rw [if_neg hs]
      decide
  · decide

theorem plain_of_mem_plainMembers : ∀ m ∈ plainMembers ms, PlainWord m.1 := by
  intro m hm
  simpa using (mem_filter.mp hm).2

theorem printFlat_line : 10 ∉ printFlat v := by
  unfold printFlat
  split
  · simpa [objectText] using membersText_line printScalar_line plain_of_mem_plainMembers
  · exact printScalar_line v

theorem codec_lawful : codec.Lawful where
  print_number n := rfl
  print_line v := by
    simp only [codec, print]
    split
    · simpa [objectText] using membersText_line printFlat_line plain_of_mem_plainMembers
    · exact printScalar_line _
  parse_object ms _ h :=
    ⟨ms, parse_text fun m hm => ⟨(h m hm).1, readable_flat (h m hm).2⟩, fun _ => rfl⟩

end FlatJson

end Phux

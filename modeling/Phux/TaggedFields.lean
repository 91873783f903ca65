import Phux.Integers

/-! Bodies made of tagged fields. A field is an id, a wire type and a length
followed by its value; a body is read field by field until it ends. -/

namespace ByteReader

open UInt64

variable {ε σ : Type} {limit : Nat}

def writeField (wireType : UInt8) (id : UInt32) (value : Bytes) : Bytes :=
  writeVarint id.toNat ++ ([wireType] ++ (writeVarint value.length ++ value))

def readFieldBody (eof overflow : ε) (limit : Nat) : Reader ε (UInt32 × Bytes) := do
  let id ← readVarint eof overflow
  failIf (2 ^ 32 ≤ id.toNat) overflow
  let _ ← take eof 1
  let len ← readVarint eof overflow
  failIf (limit < len.toNat) overflow
  let value ← take eof len.toNat
  pure (id.toUInt32, value)

def readField (eof overflow : ε) (limit : Nat) : Reader ε (Option (UInt32 × Bytes)) := fun c =>
  if c.atBodyEnd then .ok (none, c)
  else (readFieldBody eof overflow limit c).map fun x => (some x.1, x.2)

def fieldLoop (eof overflow : ε) (limit : Nat) (step : σ → UInt32 → Bytes → Except ε σ) :
    Nat → σ → Reader ε σ
  | 0, _ => throw eof
  | fuel + 1, acc => do
    match ← readField eof overflow limit with
    | none => pure acc
    | some (id, value) =>
      let acc ← StateT.lift (step acc id value)
      fieldLoop eof overflow limit step fuel acc

/-- Every field takes at least one byte, so the unread length bounds the rounds. -/
def forFields (eof overflow : ε) (limit : Nat) (step : σ → UInt32 → Bytes → Except ε σ) (acc : σ) :
    Reader ε σ := fun c => fieldLoop eof overflow limit step (c.rest.length + 1) acc c

theorem length_writeField (wireType : UInt8) (id : UInt32) (value : Bytes) :
    value.length < (writeField wireType id value).length := by
  simp only [writeField, List.length_append, List.length_cons, List.length_nil]
  omega

variable {wireType : UInt8} {id : UInt32} {value : Bytes}

theorem reads_fieldBody (eof ov : ε) (hlimit : limit < 2 ^ 64) :
    Reads limit (readFieldBody eof ov limit) (writeField wireType id value) (id, value) := by
  intro hb
  have hlen : value.length ≤ limit := by
    have := length_writeField wireType id value
    omega
  have hid := id.toNat_lt
  have hidn : (ofNat id.toNat).toNat = id.toNat := by
    rw [toNat_ofNat']
    omega
  have hid32 : (ofNat id.toNat).toUInt32 = id := by
    apply UInt32.toNat_inj.mp
    rw [toNat_toUInt32, hidn]
    omega
  have hlenn : (ofNat value.length).toNat = value.length := by
    rw [toNat_ofNat']
    omega
  have htake : Reads limit (take eof (ofNat value.length).toNat) value value := by
    rw [hlenn]
    exact reads_take eof value
  have hbody : Reads limit (readFieldBody eof ov limit) (writeField wireType id value)
      ((ofNat id.toNat).toUInt32, value) :=
    (reads_varint (by omega)).bind <| .failIf (by omega) <|
      (reads_take eof [wireType]).bind <| (reads_varint (by omega)).bind <|
      Reads.failIf (by omega) <| htake.map _
  rw [hid32] at hbody
  exact hbody hb

/-- From `acc`, the fields encoded in `bs` take the fold to `acc'`, whatever
follows them. -/
def FieldRun (eof overflow : ε) (limit : Nat) (step : σ → UInt32 → Bytes → Except ε σ) (acc : σ)
    (bs : Bytes) (acc' : σ) : Prop :=
  bs.length ≤ limit → ∀ (c : Cursor) (r : Bytes), c.rest = bs ++ r → bs.length ≤ c.left →
    ∃ rounds ≤ bs.length, ∀ fuel,
      fieldLoop eof overflow limit step (fuel + rounds) acc c =
        fieldLoop eof overflow limit step fuel acc' (c.advance bs.length)

variable {eof ov : ε} {step : σ → UInt32 → Bytes → Except ε σ} {acc acc' acc'' : σ}

theorem FieldRun.nil : FieldRun eof ov limit step acc [] acc := by
  intro _ c r _ _
  exact ⟨0, Nat.le_refl 0, by simp⟩

theorem FieldRun.append {bs bs' : Bytes} (h : FieldRun eof ov limit step acc bs acc')
    (h' : FieldRun eof ov limit step acc' bs' acc'') :
    FieldRun eof ov limit step acc (bs ++ bs') acc'' := by
  intro hb c r hr hl
  rw [List.length_append] at hb hl
  rw [List.append_assoc] at hr
  have hleft := Cursor.left_advance hr
  obtain ⟨k', hk', h2⟩ := h' (by omega) _ r (Cursor.advance_rest hr) (by omega)
  obtain ⟨k, hk, h1⟩ := h (by omega) c _ hr (by omega)
  refine ⟨k' + k, by rw [List.length_append]; omega, fun fuel => ?_⟩
  rw [← Nat.add_assoc, h1, h2, Cursor.advance_advance, List.length_append]

theorem FieldRun.field
    (hlimit : limit < 2 ^ 64) (h : value.length ≤ limit → step acc id value = .ok acc') :
    FieldRun eof ov limit step acc (writeField wireType id value) acc' := by
  intro hb c r hr hl
  have hlen := length_writeField wireType id value
  have hend : ¬ c.atBodyEnd = true := fun he => by
    have := (Cursor.atBodyEnd_iff c).mp he
    omega
  have hbody := reads_fieldBody eof ov hlimit hb c r hr
  have hread : readField eof ov limit c =
      .ok (some (id, value), c.advance (writeField wireType id value).length) := by
    rw [readField, if_neg hend, hbody]
    rfl
  refine ⟨1, by omega, fun fuel => ?_⟩
  rw [fieldLoop, bind_ok hread]
  simp only [h (by omega)]
  rfl

def writeOptField {α : Type} (wireType : UInt8) (id : UInt32) (enc : α → Bytes) : Option α → Bytes
  | none => []
  | some a => writeField wireType id (enc a)

theorem FieldRun.optField {α : Type} {enc : α → Bytes} {o : Option α}
    (hlimit : limit < 2 ^ 64) (hnone : o = none → acc = acc')
    (hsome : ∀ a, o = some a → (enc a).length ≤ limit → step acc id (enc a) = .ok acc') :
    FieldRun eof ov limit step acc (writeOptField wireType id enc o) acc' := by
  cases o with
  | none =>
    rw [hnone rfl]
    exact nil
  | some a => exact field hlimit (hsome a rfl)

theorem FieldRun.readsToEnd {bs : Bytes} (h : FieldRun eof ov limit step acc bs acc') :
    ReadsToEnd limit (forFields eof ov limit step acc) bs acc' := by
  intro hb c r hr hl
  have hrest : bs.length ≤ c.rest.length := by simp [hr]
  obtain ⟨k, hk, hrun⟩ := h hb c r hr (by omega)
  have hend : (c.advance bs.length).atBodyEnd = true := by
    rw [Cursor.atBodyEnd_iff, Cursor.left_advance hr]
    omega
  have hread : readField eof ov limit (c.advance bs.length) = .ok (none, c.advance bs.length) := by
    rw [readField, if_pos hend]
  have hfuel : c.rest.length + 1 = c.rest.length - k + 1 + k := by omega
  rw [forFields, hfuel, hrun, fieldLoop, bind_ok hread]
  rfl

end ByteReader

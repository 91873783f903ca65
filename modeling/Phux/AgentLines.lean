import Mathlib.Algebra.Order.BigOperators.Group.List
import Phux.AgentSession
import Phux.JsonText

/-! The lines an agent session stamps: numbered one by one, each one a record the
client's parser takes unless it is too long, and the ring a run of the newest. -/

namespace Phux

open ByteReader List RecordRing

variable {rs : List ValidRecord} {line : Bytes} {seq : UInt64} {ended : Bool} {bytes : Bytes}
  {ring : RecordRing}

inductive Counted {α : Type} (p : UInt64 → α → Prop) : UInt64 → List α → UInt64 → Prop where
  | nil (a : UInt64) : Counted p a [] a
  | cons {a n b : UInt64} {x : α} {xs : List α} :
    checkedNext64 a = some n → p n x → Counted p n xs b → Counted p a (x :: xs) b

namespace Counted

variable {α : Type} {p : UInt64 → α → Prop} {a b c : UInt64} {xs ys : List α}

variable (h : Counted p a xs b)

include h

theorem append (h' : Counted p b ys c) : Counted p a (xs ++ ys) c := by
  induction h with
  | nil a => exact h'
  | cons hn hx _ ih => exact .cons hn hx (ih h')

theorem toNat_eq : b.toNat = a.toNat + xs.length := by
  induction h with
  | nil a => rfl
  | cons hn _ _ ih =>
    have := checkedNext64_eq_some hn
    simp only [length_cons]
    omega

theorem imp {q : UInt64 → α → Prop} (hpq : ∀ n x, p n x → q n x) : Counted q a xs b := by
  induction h with
  | nil a => exact .nil a
  | cons hn hx _ ih => exact .cons hn (hpq _ _ hx) ih

theorem exists_of_mem {x : α} (hx : x ∈ xs) : ∃ n, p n x := by
  induction h with
  | nil a => cases hx
  | @cons a n b y ys hn hy _ ih =>
    rcases mem_cons.mp hx with rfl | hx
    · exact ⟨n, hy⟩
    · exact ih hx

end Counted

/-- A line whose record, once parsed, carries this sequence number. -/
def StampedLine (json : JsonCodec) (seq : UInt64) (line : Bytes) : Prop :=
  ∃ text record, line = text ++ [10] ∧ text ≠ [] ∧ 10 ∉ text ∧ trimAscii text = text ∧
    parseRecord json text = .ok record ∧ record.seq = seq

def FitsRecord (line : Bytes) : Prop := line.length ≤ maxRecordBytes + 1

instance (line : Bytes) : Decidable (FitsRecord line) :=
  inferInstanceAs (Decidable (line.length ≤ maxRecordBytes + 1))

section

variable {json : JsonCodec} {a b : UInt64} {lines : List Bytes}

theorem parseRecords_cons (h : StampedLine json seq line) {rest : Bytes} :
    (FitsRecord line → ∃ record, record.seq = seq ∧
      parseRecords json (line ++ rest) = (parseRecords json rest).map (record :: ·)) ∧
    (¬FitsRecord line → ∃ error, parseRecords json (line ++ rest) = .error error) := by
  obtain ⟨text, record, rfl, hne, hline, htrim, hparse, hseq⟩ := h
  have hsplit : parseRecords json (text ++ [10] ++ rest) =
      parseLines json (text :: rest.splitOn 10) := by
    have hplain : ∀ x ∈ text, (x == 10) = false := by
      intro x hx
      simpa using fun he : x = 10 => hline (he ▸ hx)
    rw [parseRecords, append_assoc, singleton_append, splitOn,
      splitOnP_append_cons_of_forall_mem hplain 10 (by decide) rest]
    rfl
  constructor
  · intro hfits
    have hlen : ¬maxRecordBytes < text.length := by
      simp only [FitsRecord, length_append, length_singleton] at hfits
      omega
    have hone : parseLine json text = .ok (some record) := by
      simp only [parseLine, htrim, if_neg hne, if_neg hlen, hparse]
      rfl
    refine ⟨record, hseq, ?_⟩
    rw [hsplit, parseLines, hone, parseRecords]
    cases parseLines json (rest.splitOn 10) <;> rfl
  · intro hlong
    have hlen : maxRecordBytes < text.length := by
      simp only [FitsRecord, length_append, length_singleton] at hlong
      omega
    have hone : parseLine json text = .error (.oversize text.length) := by
      simp only [parseLine, htrim, if_neg hne, if_pos hlen]
    exact ⟨_, by rw [hsplit, parseLines, hone]; rfl⟩

theorem parseRecords_of_fits (h : Counted (StampedLine json) a lines b)
    (hfits : ∀ line ∈ lines, FitsRecord line) : ∃ rs, parseRecords json lines.flatten = .ok rs ∧
      Counted (fun n record => record.seq = n) a rs b := by
  induction h with
  | nil a => exact ⟨[], rfl, .nil a⟩
  | @cons a n b line lines hn hline _ ih =>
    obtain ⟨rs, hrecords, hcounted⟩ := ih fun line hl => hfits line (mem_cons_of_mem _ hl)
    obtain ⟨record, hseq, hparse⟩ := (parseRecords_cons hline).1 (hfits line mem_cons_self)
    refine ⟨record :: rs, ?_, .cons hn hseq hcounted⟩
    rw [flatten_cons, hparse, hrecords]
    rfl

theorem parseRecords_of_long (h : Counted (StampedLine json) a lines b)
    (hlong : ¬∀ line ∈ lines, FitsRecord line) :
    ∃ error, parseRecords json lines.flatten = .error error := by
  induction h with
  | nil a => exact absurd (by simp) hlong
  | @cons a n b line lines hn hline _ ih =>
    by_cases hfits : FitsRecord line
    · obtain ⟨record, -, hparse⟩ := (parseRecords_cons hline).1 hfits
      obtain ⟨error, herror⟩ := ih fun hall => hlong fun l hl => by
        rcases mem_cons.mp hl with rfl | hl
        · exact hfits
        · exact hall l hl
      exact ⟨error, by rw [flatten_cons, hparse, herror]; rfl⟩
    · exact (parseRecords_cons hline).2 hfits

end

/-! What the server stamps. -/

variable {json : JsonCodec}

def Accepted (json : JsonCodec) (record : ValidRecord) : Prop :=
  record.recordType ∈ recordTypes ∧ json.Readable (.object record.data)

variable {record : ValidRecord}

theorem AgentSession.parseRecord_accepted
    (h : parseRecord json line = .ok record) : Accepted json record := by
  unfold parseRecord at h
  split at h
  · rename_i members hparse
    split at h
    · cases h
    · by_cases htype : ‹String› ∉ recordTypes
      · simp [htype] at h
      · rw [if_neg htype] at h
        have hmem := not_not.mp htype
        split at h
        · cases h
          exact ⟨hmem, .emptyObject⟩
        · cases h
          exact ⟨hmem, .emptyObject⟩
        · rename_i data hdata
          cases h
          exact ⟨hmem, .member hparse hdata⟩
        · cases h
  · cases h

variable {lines : List Bytes}

/-- A blank line adds nothing; any other one parses as a record, before the end of the session. -/
theorem AgentSession.validateLines_cons (h : validateLines json ended (line :: lines) = .ok rs) :
    validateLines json ended lines = .ok rs ∨ ended = false ∧ ∃ text record more, rs = record :: more ∧
      parseRecord json text = .ok record ∧ validateLines json record.endsSession lines = .ok more := by
  simp only [validateLines] at h
  split at h
  · exact .inl h
  · split at h
    · cases h
    · split at h
      · cases h
      · obtain ⟨record, hrecord, h⟩ := Fallible.bind_eq_ok.mp h
        obtain ⟨more, hmore, h⟩ := Fallible.bind_eq_ok.mp h
        obtain rfl := Fallible.pure_eq_ok.mp h
        exact .inr ⟨by simpa using ‹¬ended = true›, _, record, more, rfl, hrecord, hmore⟩

theorem AgentSession.validateLines_accepted (h : validateLines json ended lines = .ok rs) :
    ∀ record ∈ rs, Accepted json record := by
  induction lines generalizing ended rs with
  | nil =>
    cases h
    simp
  | cons line lines ih =>
    rcases validateLines_cons h with h | ⟨-, text, record, more, rfl, hrecord, hmore⟩
    · exact ih h
    · exact forall_mem_cons.mpr ⟨parseRecord_accepted hrecord, ih hmore⟩

theorem AgentSession.validate_eq_ok (h : validate json bytes ended = .ok rs) :
    validateLines json ended (bytes.splitOn 10) = .ok rs ∧ rs ≠ [] := by
  unfold validate at h
  split at h
  · cases h
  · obtain ⟨found, hfound, h⟩ := Fallible.bind_eq_ok.mp h
    by_cases hne : found = []
    · simp [hne, throw, throwThe, MonadExceptOf.throw, bind, Except.bind] at h
    · simp only [hne, ↓reduceIte] at h
      obtain rfl := Fallible.pure_eq_ok.mp h
      exact ⟨hfound, hne⟩

theorem plainWord_of_mem_recordTypes {word : String} (h : word ∈ recordTypes) : PlainWord word := by
  have hall : ∀ w ∈ recordTypes, PlainWord w := by decide +kernel
  exact hall word h

theorem plainWord_names : PlainWord "seq" ∧ PlainWord "ts_ms" ∧ PlainWord "type" ∧
    PlainWord "data" ∧ PlainWord "text" := by
  decide +kernel

def stampMembers (record : ValidRecord) (seq tsMs : UInt64) : List (String × JsonValue) :=
  [("seq", .number (.posInt seq)), ("ts_ms", .number (.posInt tsMs)),
    ("type", .string record.recordType), ("data", .object record.data)]

variable {tsMs : UInt64}

theorem stamp_eq (hjson : json.Lawful) :
    record.stamp json seq tsMs = objectText json.print (stampMembers record seq tsMs) ++ [10] := by
  have hseq : strBytes "\x7b\"seq\":" = 123 :: (quoted "seq" ++ [58]) := by decide
  have hts : strBytes ",\"ts_ms\":" = 44 :: (quoted "ts_ms" ++ [58]) := by decide
  have htype : strBytes ",\"type\":" = 44 :: (quoted "type" ++ [58]) := by decide
  have hdata : strBytes ",\"data\":" = 44 :: (quoted "data" ++ [58]) := by decide
  have hend : strBytes "\x7d\n" = [125, 10] := by decide
  simp [ValidRecord.stamp, hseq, hts, htype, hdata, hend, objectText, stampMembers, membersText,
    hjson.print_number]

theorem membersText_ends (print : JsonValue → Bytes) (members : List (String × JsonValue)) :
    ∃ body, membersText print members = body ++ [125] := by
  fun_induction membersText print members with
  | case1 => exact ⟨[], rfl⟩
  | case2 key value => exact ⟨quoted key ++ 58 :: print value, by simp⟩
  | case3 key value next members ih =>
    obtain ⟨body, hbody⟩ := ih
    exact ⟨quoted key ++ 58 :: (print value ++ 44 :: body), by simp [hbody]⟩

theorem trimMatches_objectText {p : UInt8 → Bool} (hopen : p 123 = false) (hclose : p 125 = false)
    {print : JsonValue → Bytes} {members : List (String × JsonValue)} :
    trimMatches p (objectText print members) = objectText print members := by
  obtain ⟨body, hbody⟩ := membersText_ends print members
  simp [objectText, hbody, trimMatches, hopen, hclose]

theorem stamp_stampedLine (hjson : json.Lawful) (h : Accepted json record)
    (seq tsMs : UInt64) : StampedLine json seq (record.stamp json seq tsMs) := by
  have hplain : ∀ m ∈ stampMembers record seq tsMs, PlainWord m.1 ∧ json.Readable m.2 := by
    simp only [stampMembers, forall_mem_cons, not_mem_nil, false_implies, implies_true, and_true]
    obtain ⟨hseq, hts, htype, hdata, -⟩ := plainWord_names
    exact ⟨⟨hseq, .number seq⟩, ⟨hts, .number tsMs⟩,
      ⟨htype, .word (plainWord_of_mem_recordTypes h.1)⟩, hdata, h.2⟩
  have hkeys : ((stampMembers record seq tsMs).map Prod.fst).Nodup := by simp [stampMembers]
  obtain ⟨found, hparse, hlookup⟩ := hjson.parse_object _ hkeys hplain
  have hline : 10 ∉ objectText json.print (stampMembers record seq tsMs) := by
    simpa [objectText] using membersText_line hjson.print_line fun m hm => (hplain m hm).1
  refine ⟨_, ⟨seq, tsMs, .parse record.recordType, .object record.data⟩,
    stamp_eq hjson, by simp [objectText], hline, ?_, ?_, rfl⟩
  · exact trimMatches_objectText (by decide) (by decide)
  · have hseq : found.lookup "seq" = some (.number (.posInt seq)) := hlookup "seq"
    have hts : found.lookup "ts_ms" = some (.number (.posInt tsMs)) := hlookup "ts_ms"
    have htype : found.lookup "type" = some (.string record.recordType) := hlookup "type"
    have hdata : found.lookup "data" = some (.object record.data) := hlookup "data"
    simp only [parseRecord, hparse, hseq, hts, htype, hdata, recordData]
    rfl

def NumberedLine (json : JsonCodec) (seq : UInt64) (line : Bytes) : Prop :=
  ∃ record tsMs, Accepted json record ∧ line = record.stamp json seq tsMs

theorem Counted.stampedLines (hjson : json.Lawful) {a b : UInt64}
    (h : Counted (NumberedLine json) a lines b) : Counted (StampedLine json) a lines b :=
  h.imp fun seq _ hline => by
    obtain ⟨_, tsMs, haccepted, rfl⟩ := hline
    exact stamp_stampedLine hjson haccepted seq tsMs

namespace AgentSession

theorem stampLines_counted (h : ∀ record ∈ rs, Accepted json record) {a : UInt64}
    (hroom : a.toNat + rs.length < 18446744073709551616) :
    ∃ b, Counted (NumberedLine json) a (stampLines json tsMs a rs) b ∧
      (stampLines json tsMs a rs).length = rs.length := by
  induction rs generalizing a with
  | nil => exact ⟨a, .nil a, rfl⟩
  | cons record rs ih =>
    obtain ⟨n, hn⟩ := exists_checkedNext64 (n := a) (by simp only [length_cons] at hroom; omega)
    have hnext := checkedNext64_eq_some hn
    obtain ⟨b, hb, hlen⟩ := ih (fun r hr => h r (mem_cons_of_mem _ hr)) (a := n)
      (by simp only [length_cons] at hroom; omega)
    refine ⟨b, ?_, ?_⟩
    · simp only [stampLines, hn]
      exact .cons hn ⟨record, tsMs, h record mem_cons_self, rfl⟩ hb
    · simp [stampLines, hn, hlen]

theorem appendRecords_eq {a b : UInt64} (run : Appended)
    (hseq : run.session.seq = a) {p : UInt64 → Bytes → Prop}
    (h : Counted p a (stampLines json tsMs a rs) b)
    (hlen : (stampLines json tsMs a rs).length = rs.length) :
    (appendRecords json tsMs run rs).payload = run.payload ++ (stampLines json tsMs a rs).flatten ∧
      (appendRecords json tsMs run rs).session.seq = b ∧
      (appendRecords json tsMs run rs).session.ring =
        (stampLines json tsMs a rs).foldl push run.session.ring ∧
      (appendRecords json tsMs run rs).session.ended =
        (run.session.ended || rs.any ValidRecord.endsSession) := by
  induction rs generalizing a run with
  | nil =>
    cases h
    exact ⟨by simp [appendRecords, stampLines], hseq, rfl, by simp [appendRecords]⟩
  | cons record rs ih =>
    cases hn : checkedNext64 a with
    | none => simp [stampLines, hn] at hlen
    | some n =>
      simp only [stampLines, hn] at h hlen ⊢
      cases h with
      | cons hn' _ hrest =>
        obtain rfl := Option.some.inj (hn.symm.trans hn')
        have hlen' : (stampLines json tsMs n rs).length = rs.length := by simpa using hlen
        simp only [appendRecords, hseq, hn]
        obtain ⟨hpayload, hlast, hring, hended⟩ := ih (a := n)
          ⟨⟨n, run.session.ring.push (record.stamp json n tsMs),
              run.session.ended || record.endsSession⟩,
            run.payload ++ record.stamp json n tsMs, record.evidence.or run.evidence,
            record.ask.or run.ask⟩ rfl hrest hlen'
        exact ⟨by rw [hpayload]; simp, hlast, by rw [hring]; rfl,
          by rw [hended, any_cons, Bool.or_assoc]⟩

def accepted (json : JsonCodec) (s : AgentSession) (request : AppendRequest) : List ValidRecord :=
  match s.admitBatch json request.bytes with
  | .error _ => []
  | .ok (records, _, _) => records

/-- What an append does: nothing, or one batch of newly numbered lines. -/
inductive AppendStep (json : JsonCodec) (s : AgentSession) (request : AppendRequest) : Prop where
  | refused (hlines : s.stamped json request = []) (hrecords : s.accepted json request = [])
    (houtput : (s.handleAppend json request).output = none)
    (hsession : s.afterAppend json request = s)
  | batch (hne : s.stamped json request ≠ [])
    (hvalid : validate json request.bytes s.ended = .ok (s.accepted json request))
    (hlines : Counted (NumberedLine json) s.seq (s.stamped json request)
      (s.afterAppend json request).seq)
    (hlen : (s.stamped json request).length = (s.accepted json request).length)
    (houtput : (s.handleAppend json request).output =
      some (.live (s.afterAppend json request).seq (s.stamped json request).flatten
        request.instant))
    (hring : (s.afterAppend json request).ring =
      (s.stamped json request).foldl RecordRing.push s.ring)
    (hended : (s.afterAppend json request).ended =
      (s.ended || (s.accepted json request).any ValidRecord.endsSession))

theorem admitBatch_eq_ok {s : AgentSession} {firstSeq lastSeq : UInt64}
    (h : s.admitBatch json bytes = .ok (rs, firstSeq, lastSeq)) :
    validate json bytes s.ended = .ok rs ∧ rs ≠ [] ∧ (∀ record ∈ rs, Accepted json record) ∧
      lastSeq.toNat = s.seq.toNat + rs.length := by
  unfold admitBatch at h
  split at h
  · cases h
  · rename_i found hvalid
    obtain ⟨hfound, hne⟩ := validate_eq_ok hvalid
    have haccepted := validateLines_accepted hfound
    split at h
    · cases h
    · rename_i first hfirst
      split at h
      · cases h
      · rename_i last hlast
        cases h
        have h1 := checkedNext64_eq_some hfirst
        have h2 := checkedAdd64_eq_some hlast
        have hpos := length_pos_iff.mpr hne
        exact ⟨hvalid, hne, haccepted, by omega⟩

theorem handleAppend_step (json : JsonCodec) (s : AgentSession) (req : AppendRequest) :
    AppendStep json s req := by
  cases hadmit : s.admitBatch json req.bytes with
  | error rejection =>
    exact .refused (by simp [stamped, hadmit]) (by simp [accepted, hadmit])
      (by simp [handleAppend, hadmit]) (by simp [afterAppend, handleAppend, hadmit])
  | ok admitted =>
    obtain ⟨rs, firstSeq, lastSeq⟩ := admitted
    have hstamped : s.stamped json req = stampLines json req.nowMs s.seq rs := by
      simp [stamped, hadmit]
    have hrecords : s.accepted json req = rs := by simp [accepted, hadmit]
    obtain ⟨hvalid, hne, haccepted, hlast⟩ := admitBatch_eq_ok hadmit
    have hroom : s.seq.toNat + rs.length < 18446744073709551616 := by
      rw [← hlast]
      exact lastSeq.toNat_lt
    obtain ⟨b, hcounted, hlen⟩ := stampLines_counted haccepted hroom
    obtain ⟨hpayload, hseq, hring, hended⟩ := appendRecords_eq ⟨s, [], none, none⟩ rfl hcounted hlen
    have hb : b = lastSeq := by
      apply UInt64.toNat_inj.mp
      rw [hcounted.toNat_eq, hlen, hlast]
    have hafter : s.afterAppend json req =
        (appendRecords json req.nowMs ⟨s, [], none, none⟩ rs).session := by
      simp [afterAppend, handleAppend, hadmit]
    refine .batch ?_ ?_ ?_ ?_ ?_ ?_ ?_
    · rw [hstamped]
      intro hnil
      rw [hnil] at hlen
      exact hne (length_eq_zero_iff.mp hlen.symm)
    · rw [hrecords, hvalid]
    · rw [hstamped, hafter, hseq]
      exact hcounted
    · rw [hstamped, hrecords, hlen]
    · rw [hstamped, hafter, hseq, hb]
      simp [handleAppend, hadmit, hpayload]
    · rw [hstamped, hafter, hring]
    · rw [hafter, hended, hrecords]

theorem seq_le_run (json : JsonCodec) (s : AgentSession) (requests : List AppendRequest) :
    s.seq.toNat ≤ (s.run json requests).seq.toNat := by
  induction requests generalizing s with
  | nil => exact le_rfl
  | cons req requests ih =>
    refine le_trans ?_ (ih (s.afterAppend json req))
    cases handleAppend_step json s req with
    | refused _ _ _ hsession => rw [hsession]
    | batch _ _ hlines _ _ _ _ =>
      rw [hlines.toNat_eq]
      omega

end AgentSession

namespace RecordRing

/-- The byte count is right, and only a single record may be over the ceiling. -/
structure Bounded (ring : RecordRing) : Prop where
  bytes_eq : ring.bytes = (ring.records.map List.length).sum
  le_ceiling : ring.bytes ≤ ring.ceiling ∨ ring.records.length ≤ 1

theorem prune_spec {ceiling : Nat} {rs : List Bytes} {bytes : Nat} {dropped : UInt64}
    (h : bytes = (rs.map length).sum) : (prune ceiling rs bytes dropped).Bounded ∧
      (prune ceiling rs bytes dropped).ceiling = ceiling ∧
      (prune ceiling rs bytes dropped).records <:+ rs := by
  fun_induction prune ceiling rs bytes dropped with
  | case1 bytes dropped | case2 record bytes dropped =>
    exact ⟨⟨h, .inr (by simp)⟩, rfl, suffix_refl _⟩
  | case3 evicted next rs bytes dropped hover ih =>
    obtain ⟨hbounded, hceiling, hkept⟩ := ih (by simp at h ⊢; omega)
    exact ⟨hbounded, hceiling, hkept.trans (suffix_cons evicted _)⟩
  | case4 evicted next rs bytes dropped hunder =>
    exact ⟨⟨h, .inl (not_lt.mp hunder)⟩, rfl, suffix_refl _⟩

theorem prune_counted {p : UInt64 → Bytes → Prop} {b : UInt64} (ceiling : Nat)
    (rs : List Bytes) (bytes : Nat) (dropped : UInt64) (h : Counted p dropped rs b) :
    Counted p (prune ceiling rs bytes dropped).dropped
      (prune ceiling rs bytes dropped).records b := by
  fun_induction prune ceiling rs bytes dropped with
  | case1 bytes dropped => exact h
  | case2 record bytes dropped => exact h
  | case3 evicted next rs bytes dropped hover ih =>
    cases h with
    | cons hn _ hrest =>
      refine ih ?_
      rw [saturatingNext64, hn]
      exact hrest
  | case4 evicted next rs bytes dropped hunder => exact h

end RecordRing

namespace AgentSession

/-- The ring holds the newest lines, numbered from the number dropped up to the session's
sequence. -/
structure Retains (json : JsonCodec) (seq : UInt64) (ring : RecordRing) : Prop where
  lines : Counted (NumberedLine json) ring.dropped ring.records seq
  bounded : ring.Bounded
  ceiling_lt : ring.ceiling < 4294967296

theorem Retains.push {n : UInt64} (h : Retains json seq ring) (hn : checkedNext64 seq = some n)
    (hline : NumberedLine json n line) :
    Retains json n (ring.push line) ∧ (ring.push line).records <:+ ring.records ++ [line] ∧
      (ring.push line).ceiling = ring.ceiling := by
  have hbytes : ring.bytes + line.length = ((ring.records ++ [line]).map length).sum := by
    simp [h.bounded.bytes_eq]
  obtain ⟨hbounded, hceiling, hkept⟩ := prune_spec hbytes
  have hall : Counted (NumberedLine json) ring.dropped (ring.records ++ [line]) n :=
    h.lines.append (.cons hn hline (.nil n))
  refine ⟨⟨prune_counted _ _ _ _ hall, hbounded, ?_⟩, hkept, hceiling⟩
  rw [RecordRing.push, hceiling]
  exact h.ceiling_lt

theorem Retains.foldl {a b : UInt64} (h : Retains json a ring)
    (hlines : Counted (NumberedLine json) a lines b) :
    Retains json b (lines.foldl RecordRing.push ring) ∧
      (lines.foldl RecordRing.push ring).records <:+ ring.records ++ lines ∧
      (lines.foldl RecordRing.push ring).ceiling = ring.ceiling := by
  induction hlines generalizing ring with
  | nil a => exact ⟨h, by simp, rfl⟩
  | @cons a n b line lines hn hline _ ih =>
    obtain ⟨hpush, hkept, hceiling⟩ := h.push hn hline
    obtain ⟨hall, hsuffix, hceiling'⟩ := ih hpush
    refine ⟨hall, hsuffix.trans ?_, hceiling'.trans hceiling⟩
    obtain ⟨gone, hgone⟩ := hkept
    exact ⟨gone, by rw [← append_assoc, hgone]; simp⟩

theorem retains_build (json : JsonCodec) (logBytes : UInt32) :
    Retains json (build logBytes).seq (build logBytes).ring where
  lines := .nil 0
  bounded := ⟨rfl, .inr (by simp [build, new])⟩
  ceiling_lt := logBytes.toNat_lt

theorem retains_afterAppend (json : JsonCodec) {s : AgentSession} (req : AppendRequest)
    (h : Retains json s.seq s.ring) :
    Retains json (s.afterAppend json req).seq (s.afterAppend json req).ring := by
  cases handleAppend_step json s req with
  | refused _ _ _ hsession => rwa [hsession]
  | batch _ _ hlines _ _ hring _ =>
    rw [hring]
    exact (h.foldl hlines).1

theorem retains_run (json : JsonCodec) (logBytes : UInt32) (requests : List AppendRequest) :
    Retains json ((build logBytes).run json requests).seq
      ((build logBytes).run json requests).ring := by
  have hstep : ∀ (s : AgentSession) req, Retains json s.seq s.ring →
      Retains json (s.afterAppend json req).seq (s.afterAppend json req).ring :=
    fun _ req h => retains_afterAppend json req h
  exact Machine.run_invariant hstep (retains_build json logBytes)

/-- Every line is at least two bytes long, so the ring cannot outnumber the chunk counter. -/
theorem Retains.length_lt (hjson : json.Lawful) (h : Retains json seq ring) :
    ring.records.length < 4294967295 := by
  have hlines := h.lines.stampedLines hjson
  have htwo : ∀ line ∈ ring.records, 2 ≤ line.length := by
    intro line hline
    obtain ⟨n, text, record, rfl, hne, -⟩ := hlines.exists_of_mem hline
    have := length_pos_iff.mpr hne
    simp only [length_append, length_singleton]
    omega
  have hsum : ring.records.length * 2 ≤ (ring.records.map length).sum := by
    have := card_nsmul_le_sum (ring.records.map length) 2 (by simpa using htwo)
    simpa using this
  have hceiling := h.ceiling_lt
  have hbytes := h.bounded.bytes_eq
  rcases h.bounded.le_ceiling with hle | hle <;> omega

theorem outputs_append (json : JsonCodec) (s : AgentSession) (xs ys : List AppendRequest) :
    s.outputs json (xs ++ ys) = s.outputs json xs ++ (s.run json xs).outputs json ys := by
  induction xs generalizing s with
  | nil => rfl
  | cons req xs ih =>
    simp only [cons_append, outputs, ih, append_assoc]
    rfl

end AgentSession

end Phux

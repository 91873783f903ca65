import Phux.Snapshot
import Phux.SocketAddr

/-! The client's selectors: parsing the text of a target, and resolving it in a snapshot. -/

namespace Phux

open List

inductive WindowRef where
  | index (n : UInt16)
  | tag (name : String)
deriving DecidableEq

inductive Selector where
  | current
  | session (name : String)
  | window (name : String) (window : WindowRef)
  | pane (name : String) (window : WindowRef) (index : UInt16)
  | resourceId (id : UInt32)
  | satelliteResourceId (host : String) (id : UInt32)
  | tag (name : String)
  | agent (name : String)
deriving DecidableEq

inductive ParseError where
  | empty | emptyTag | emptyAgentName | lastUnsupported
  | badResourceId (text : String)
  | badPaneIndex (text : String)
  | badAgentName (text : String)
deriving DecidableEq

/-- `str::parse` at an unsigned type with values below `bound`. -/
def parseUnsigned (bound : Nat) (s : Text) : Option Nat :=
  let (digits, rest) := readDigits 10 ((readGivenChar '+' s).getD s)
  let n := digits.foldl (fun acc d => acc * 10 + d) 0
  if digits ≠ [] ∧ rest = [] ∧ n < bound then some n else none

def rsplitOnce (c d : Char) : Text → Option (Text × Text)
  | [] => none
  | x :: s =>
    match rsplitOnce c d s with
    | some (before, after) => some (x :: before, after)
    | none => if x = c then (readGivenChar d s).map ([], ·) else none

def splitOnce (c : Char) (s : Text) : Option (Text × Text) :=
  (readGivenChar c (s.dropWhile (· ≠ c))).map (s.takeWhile (· ≠ c), ·)

def agentNameMaxLen : Nat := 32

def isAddressableAgentName (name : Text) : Bool :=
  match name with
  | [] => false
  | first :: chars =>
    first.isLower && decide ((String.ofList name).utf8ByteSize ≤ agentNameMaxLen) &&
      chars.all fun c => c.isLower || c.isDigit || c == '_' || c == '-'

namespace Selector

def parseId (rest : Text) : Except ParseError UInt32 :=
  match parseUnsigned 0x100000000 rest with
  | some n => .ok (.ofNat n)
  | none => .error (.badResourceId (.ofList rest))

def parseWindowRef (part : Text) : WindowRef :=
  match parseUnsigned 0x10000 part with
  | some n => .index (.ofNat n)
  | none => .tag (.ofList part)

def parseNamed (raw : Text) : Except ParseError Selector :=
  match splitOnce ':' raw with
  | none => .ok (session (.ofList raw))
  | some (name, locus) =>
    match splitOnce '.' locus with
    | none => .ok (window (.ofList name) (parseWindowRef locus))
    | some (windowPart, panePart) =>
      match parseUnsigned 0x10000 panePart with
      | some n => .ok (pane (.ofList name) (parseWindowRef windowPart) (.ofNat n))
      | none => .error (.badPaneIndex (.ofList panePart))

def parseText (raw : Text) : Except ParseError Selector :=
  if raw = [] then .error .empty
  else if raw = ['.'] then .ok current
  else if raw = ['='] then .error .lastUnsupported
  else match readGivenChar '%' raw with
  | some name =>
    if name = [] then .error .emptyAgentName
    else if isAddressableAgentName name then .ok (agent (.ofList name))
    else .error (.badAgentName (.ofList name))
  | none =>
    match rsplitOnce '/' '@' raw with
    | some (host, rest) => (parseId rest).map (satelliteResourceId (.ofList host))
    | none =>
      match readGivenChar '@' raw with
      | some rest => (parseId rest).map resourceId
      | none =>
        match readGivenChar '#' raw with
        | some name => if name = [] then .error .emptyTag else .ok (tag (.ofList name))
        | none => parseNamed raw

def parse (raw : String) : Except ParseError Selector := parseText raw.toList

end Selector

namespace SessionSnapshot

variable (snapshot : SessionSnapshot)

def terminals : List ResourceInfo := snapshot.resources.filter (·.kind = .terminal)

def terminalsInSession (session : SessionId) : List ResourceId :=
  let windowIds := (snapshot.windows.filter (·.sessionId = session)).map (·.id)
  (snapshot.terminals.filter fun p => windowIds.contains p.windowId).map (·.id)

def sessionIdByName (name : String) : Option SessionId :=
  (snapshot.sessions.find? (·.name = name)).map (·.id)

def resolveWindow (name : String) (window : WindowRef) : List ResourceId :=
  match snapshot.sessionIdByName name with
  | none => []
  | some sid =>
    let named (w : WindowInfo) : Bool :=
      match window with
      | .index n => w.index = n
      | .tag tag => w.name = tag
    match (snapshot.windows.filter (·.sessionId = sid)).find? named with
    | none => []
    | some w => (snapshot.terminals.filter (·.windowId = w.id)).map (·.id)

def resolveWireId (wanted : ResourceId) : List ResourceId :=
  if snapshot.resources.any (·.id = wanted) then [wanted] else []

end SessionSnapshot

namespace Selector

def resolveWithTags (snapshot : SessionSnapshot) (tags : ResourceId → Option (List String)) :
    Selector → List ResourceId
  | current => snapshot.terminalsInSession snapshot.focusedSession
  | session name =>
    match snapshot.sessionIdByName name with
    | none => []
    | some sid => snapshot.terminalsInSession sid
  | window name ref => snapshot.resolveWindow name ref
  | pane name ref index => (snapshot.resolveWindow name ref)[index.toNat]?.toList
  | resourceId id => snapshot.resolveWireId (.local id)
  | satelliteResourceId host id => snapshot.resolveWireId (.satellite ⟨host⟩ id)
  | tag name => (snapshot.terminals.map (·.id)).filter fun id => ((tags id).getD []).contains name
  | agent _ => []

def formatText : ResourceId → Text
  | .local id => '@' :: Nat.toDigits 10 id.toNat
  | .satellite host id => host.name.toList ++ '/' :: '@' :: Nat.toDigits 10 id.toNat

def formatTerminalId (id : ResourceId) : String := .ofList (formatText id)

def direct : ResourceId → Selector
  | .local id => resourceId id
  | .satellite host id => satelliteResourceId host.name id

theorem digit_ne {n : Nat} {c d : Char} (hc : c ∈ Nat.toDigits 10 n) (hd : d.isDigit = false) :
    c ≠ d := by
  rintro rfl
  simp [Nat.isDigit_of_mem_toDigits (by decide) (by decide) hc] at hd

theorem parseUnsigned_toDigits {bound n : Nat} (h : n < bound) :
    parseUnsigned bound (Nat.toDigits 10 n) = some n := by
  have hplus : readGivenChar '+' (Nat.toDigits 10 n) = none := by
    cases hs : Nat.toDigits 10 n with
    | nil => rfl
    | cons c s => exact if_neg (digit_ne (hs ▸ mem_cons_self) (by decide))
  obtain ⟨xs, hxs, hlt, hvalue, -, hne⟩ := toDigits_values (b := 10) (by decide) n
  have hread := readDigits_map (by decide) hlt (digitsEnd_nil 10)
  rw [append_nil, ← hxs] at hread
  simp [parseUnsigned, hplus, hread, hvalue, hne, h]

theorem parseId_toDigits (id : UInt32) : parseId (Nat.toDigits 10 id.toNat) = .ok id := by
  have hread : parseUnsigned 0x100000000 _ = _ := parseUnsigned_toDigits id.toNat_lt
  simp [parseId, hread]

theorem rsplitOnce_none {c d : Char} {s : Text} (h : c ∉ s) : rsplitOnce c d s = none := by
  induction s with
  | nil => rfl
  | cons x s ih =>
    obtain ⟨hx, hs⟩ := not_or.mp (mt mem_cons.mpr h)
    simp [rsplitOnce, ih hs, Ne.symm hx]

/-- The last delimiter splits, whatever stands before it. -/
theorem rsplitOnce_append {c d : Char} (hcd : c ≠ d) (before : Text) {after : Text}
    (h : c ∉ after) : rsplitOnce c d (before ++ c :: d :: after) = some (before, after) := by
  induction before with
  | nil => simp [rsplitOnce, rsplitOnce_none h, Ne.symm hcd, readGivenChar]
  | cons x before ih => simp [rsplitOnce, ih]

/-- The form the printed text has, unless the agent sigil takes it. -/
theorem parse_formatTerminalId {id : ResourceId} (hagent : readGivenChar '%' (formatText id) = none) :
    parse (formatTerminalId id) = .ok (direct id) := by
  have hslash (n : UInt32) : '/' ∉ Nat.toDigits 10 n.toNat := fun hm => digit_ne hm (by decide) rfl
  rw [parse, formatTerminalId, String.toList_ofList, parseText, hagent]
  cases id with
  | «local» n =>
    have hnone := rsplitOnce_none (c := '/') (d := '@') (s := '@' :: Nat.toDigits 10 n.toNat)
      (by simp [hslash n])
    simp [formatText, hnone, readGivenChar, parseId_toDigits, Except.map, direct]
  | satellite host n =>
    have hlen : 2 ≤ (formatText (.satellite host n)).length := by simp [formatText]; omega
    have hsplit := rsplitOnce_append (c := '/') (d := '@') (by decide) host.name.toList (hslash n)
    rw [if_neg fun h => by simp [h] at hlen, if_neg fun h => by simp [h] at hlen,
      if_neg fun h => by simp [h] at hlen]
    simp [formatText, hsplit, parseId_toDigits, Except.map, direct]

end Selector

end Phux

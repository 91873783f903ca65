import Phux.HubLease

/-! When the hub's lease traffic does not overlap, its ledger keeps consumers apart and
agrees with the satellite's lease. -/

namespace Phux.HubLease

open List RelayBody

open Server (ClientId)

variable {client : ClientId} {id : Nat} {t : Task} {result : CommandResult} {body : RelayBody}

namespace Hub

def pipeline (s : Hub) : List RelayRequest := s.wire ++ s.mailbox

def travelling (s : Hub) : List Nat := s.pipeline.map (·.id) ++ s.replies.map (·.1)

/-- The satellite has granted the task's command, and no later loss of the link undid that. -/
def Granted (s : Hub) (t : Task) : Prop :=
  t.granted = true ∨ ∃ result, (t.id, result) ∈ s.replies ∧ isError result = false

def Releasing (s : Hub) (client : ClientId) (t : Task) : Prop :=
  t ∈ s.tasks ∧ t.client = client ∧ t.command = .release

/-- Releases and input: what has to be ahead of the request of a waiting acquire. -/
def Yields (r : RelayRequest) : Prop := r.body.isRelease ∨ r.body.isInput

structure Sound (s : Hub) : Prop where
  issued : ∀ id ∈ s.travelling, id < s.nextId
  distinct : s.travelling.Nodup
  clients : (s.tasks.map (·.client)).Nodup
  ids : ∀ t ∈ s.tasks, t.id < s.nextId
  /-- A task that has its reply has nothing on its way. -/
  replied : ∀ t ∈ s.tasks, t.reply ≠ none → t.id ∉ s.travelling
  /-- A request that a task waits for is that task's command. -/
  requested : ∀ r ∈ s.pipeline, ∀ t ∈ s.tasks, r.id = t.id → r.body = .command t.command
  down : s.up = false → s.wire = [] ∧ s.replies = []
  acquiring : ∀ t ∈ s.tasks, t.command.isAcquire → ∀ before r behind,
    s.pipeline = before ++ r :: behind → Yields r → t.id ∈ behind.map (·.id)
  leasing : ∀ t ∈ s.tasks, t.command.isAcquire → s.up = true → s.Granted t → s.leased = true
  alone : ∀ t ∈ s.tasks, t.command = .acquire .cooperative → ∀ u ∈ s.tasks,
    u.command.isAcquire → u.client = t.client
  cooperating : ∀ t ∈ s.tasks, t.command = .acquire .cooperative → ∀ client,
    s.holder = some client → client = t.client
  /-- While a holder is on record, only its own release is on its way. -/
  ownRelease : ∀ client, s.holder = some client → s.up = true → ∀ r ∈ s.pipeline,
    r.body.isRelease → ∃ t, s.Releasing client t ∧ t.id = r.id
  holding : ∀ client, s.holder = some client → s.up = true → s.leased = true ∨
    ∃ t, s.Releasing client t ∧ s.Granted t
  standing : ∀ client ∈ s.standing, s.holder = some client
  undisplaced : s.displaced = []
  queued : ∀ r ∈ s.mailbox, r.body.isInput → ∀ client, s.holder = some client →
    client = r.client
  gated : ∀ entry ∈ s.inputs, ∀ client, entry.2 = some client → client = entry.1

theorem new_sound (host : SatelliteHost) : (new host).Sound where
  issued _ h := by cases h
  distinct := nodup_nil
  clients := nodup_nil
  ids _ h := by cases h
  replied _ h := by cases h
  requested _ h := by cases h
  down _ := ⟨rfl, rfl⟩
  acquiring _ h := by cases h
  leasing _ h := by cases h
  alone _ h := by cases h
  cooperating _ h := by cases h
  ownRelease _ h := by cases h
  holding _ h := by cases h
  standing _ h := by cases h
  undisplaced := rfl
  queued _ h := by cases h
  gated _ h := by cases h

variable {s s' : Hub}

theorem mem_pipeline (h : id ∈ s.pipeline.map (·.id)) : id ∈ s.travelling := mem_append_left _ h

theorem mem_replies (h : (id, result) ∈ s.replies) : id ∈ s.travelling :=
  mem_append_right _ (mem_map.mpr ⟨_, h, rfl⟩)

/-! ### Requests enter the mailbox -/

/-- A request joins the pipeline last, with the task that waits for it if there is one. -/
def enqueue (s : Hub) (client : ClientId) (body : RelayBody) (new : Option Task) : Hub :=
  { s with
    mailbox := s.mailbox ++ [⟨s.nextId, client, body⟩]
    tasks := s.tasks ++ new.toList
    nextId := s.nextId + 1 }

theorem pipeline_enqueue (client : ClientId) (body : RelayBody) (new : Option Task) :
    (s.enqueue client body new).pipeline = s.pipeline ++ [⟨s.nextId, client, body⟩] := by
  simp [pipeline, enqueue]

variable {new : Option Task}

theorem travelling_enqueue :
    id ∈ (s.enqueue client body new).travelling ↔ id ∈ s.travelling ∨ id = s.nextId := by
  have hreplies : (s.enqueue client body new).replies = s.replies := rfl
  simp only [travelling, pipeline_enqueue, hreplies, map_append, mem_append,
    map_cons, map_nil, mem_singleton]
  tauto

structure Opens (s : Hub) (body : RelayBody) (t : Task) : Prop where
  id : t.id = s.nextId
  reply : t.reply = none
  body : body = .command t.command
  idle : ∀ u ∈ s.tasks, u.client ≠ t.client
  alone : ∀ u ∈ s.tasks, u.command.isAcquire → t.command.isAcquire →
    t.command = .acquire .seize ∧ u.command = .acquire .seize
  cooperates : t.command = .acquire .cooperative → ∀ client, s.holder = some client →
    client = t.client

theorem releases_split {l before behind : List RelayRequest} {r q : RelayRequest}
    (h : l ++ [q] = before ++ r :: behind) :
    (∃ rest, l = before ++ r :: rest ∧ behind = rest ++ [q]) ∨ (r = q ∧ behind = []) := by
  rcases eq_nil_or_concat behind with rfl | ⟨rest, q', rfl⟩
  · have hlast := (append_inj' h rfl).2
    exact .inr ⟨(cons.inj hlast).1.symm, rfl⟩
  · rw [concat_eq_append, ← cons_append, ← append_assoc] at h
    obtain ⟨hl, hq⟩ := append_inj' h rfl
    obtain rfl := (cons.inj hq).1
    exact .inl ⟨rest, hl, concat_eq_append⟩

theorem Sound.enqueue {owner : ClientId} (h : s.Sound) (hnew : ∀ t ∈ new, s.Opens body t)
    (hyields : body.isRelease ∨ body.isInput → ∀ t ∈ s.tasks, t.command.isAcquire = false)
    (hrelease : body.isRelease → ∀ client, s.holder = some client → ∃ t ∈ new, t.client = client)
    (hinput : body.isInput → ∀ client, s.holder = some client → client = owner) :
    (s.enqueue owner body new).Sound := by
  have hfresh : s.nextId ∉ s.travelling := fun hm => Nat.lt_irrefl _ (h.issued _ hm)
  have hsplit : ∀ t ∈ (s.enqueue owner body new).tasks, t ∈ s.tasks ∨ t ∈ new := by
    intro t ht
    exact (mem_append.mp ht).imp_right Option.mem_toList.mp
  have hmem : ∀ t ∈ (s.enqueue owner body new).tasks, t ∈ s.tasks ∨ s.Opens body t :=
    fun t ht => (hsplit t ht).imp_right (hnew t)
  have hold : ∀ t ∈ s.tasks, t ∈ (s.enqueue owner body new).tasks :=
    fun t ht => mem_append_left _ ht
  have hreleasing : ∀ client t, s.Releasing client t →
      (s.enqueue owner body new).Releasing client t :=
    fun client t ht => ⟨hold t ht.1, ht.2⟩
  refine .mk ?issued ?distinct ?clients ?ids ?replied ?requested ?down ?acquiring ?leasing
    ?alone ?cooperating ?ownRelease ?holding h.standing h.undisplaced ?queued h.gated
  case issued =>
    intro id hid
    rcases travelling_enqueue.mp hid with hid | rfl
    · exact Nat.lt_succ_of_lt (h.issued id hid)
    · exact Nat.lt_succ_self _
  case distinct =>
    have hperm : (s.enqueue owner body new).travelling.Perm (s.nextId :: s.travelling) := by
      simp only [travelling, pipeline_enqueue, map_append, append_assoc]
      exact perm_middle
    exact hperm.nodup_iff.mpr (nodup_cons.mpr ⟨hfresh, h.distinct⟩)
  case clients =>
    rw [Hub.enqueue]
    simp only [map_append]
    refine nodup_append.mpr ⟨h.clients, ?_, ?_⟩
    · cases new with
      | none => exact nodup_nil
      | some t => exact nodup_singleton _
    · intro a ha b hb hab
      obtain ⟨u, hu, rfl⟩ := mem_map.mp ha
      obtain ⟨t, ht, rfl⟩ := mem_map.mp hb
      exact (hnew t (Option.mem_toList.mp ht)).idle u hu hab
  case ids =>
    intro t ht
    rcases hmem t ht with ht | ht
    · exact Nat.lt_succ_of_lt (h.ids t ht)
    · rw [ht.id]
      exact Nat.lt_succ_self _
  case replied =>
    intro t ht hreply hid
    rcases hmem t ht with ht | ht
    · rcases travelling_enqueue.mp hid with hid | heq
      · exact h.replied t ht hreply hid
      · have hlt := h.ids t ht
        omega
    · exact hreply ht.reply
  case requested =>
    intro r hr t ht hid
    rw [pipeline_enqueue] at hr
    rcases mem_append.mp hr with hr | hr
    · rcases hmem t ht with ht | ht
      · exact h.requested r hr t ht hid
      · have hlt := h.issued _ (mem_pipeline (mem_map_of_mem hr))
        rw [hid, ht.id] at hlt
        exact absurd hlt (Nat.lt_irrefl _)
    · obtain rfl := mem_singleton.mp hr
      rcases hmem t ht with ht | ht
      · have hlt := h.ids t ht
        dsimp only at hid
        omega
      · exact ht.body
  case down => exact h.down
  case acquiring =>
    intro t ht hacq before r behind hsplit hr
    rw [pipeline_enqueue] at hsplit
    rcases releases_split hsplit with ⟨rest, hrest, rfl⟩ | ⟨rfl, rfl⟩
    · rcases hmem t ht with ht | ht
      · have hbehind := h.acquiring t ht hacq before r rest hrest hr
        simp [hbehind]
      · simp [ht.id]
    · rcases hmem t ht with ht | ht
      · rw [hyields hr t ht] at hacq
        cases hacq
      · have hbody := ht.body
        cases hcommand : t.command with
        | acquire mode =>
          rw [hcommand] at hbody
          simp [Yields, hbody, isRelease, isInput] at hr
        | release | route =>
          rw [hcommand] at hacq
          cases hacq
  case leasing =>
    intro t ht hacq hup hg
    rcases hmem t ht with ht | ht
    · exact h.leasing t ht hacq hup hg
    · rcases hg with hg | ⟨result, hg, _⟩
      · simp [Task.granted, ht.reply] at hg
      · exact absurd (ht.id ▸ mem_replies hg) hfresh
  case alone =>
    intro t ht hcoop u hu hacq
    have hcoop' : t.command.isAcquire := by
      rw [hcoop]
      rfl
    rcases hsplit t ht with ht | ht <;> rcases hsplit u hu with hu | hu
    · exact h.alone t ht hcoop u hu hacq
    · have hboth := (hnew u hu).alone t ht hcoop' hacq
      rw [hcoop] at hboth
      cases hboth.2
    · have hboth := (hnew t ht).alone u hu hacq hcoop'
      rw [hcoop] at hboth
      cases hboth.1
    · rw [Option.mem_unique ht hu]
  case cooperating =>
    intro t ht hcoop client hholder
    rcases hmem t ht with ht | ht
    · exact h.cooperating t ht hcoop client hholder
    · exact ht.cooperates hcoop client hholder
  case ownRelease =>
    intro client hholder hup r hr hrel
    rw [pipeline_enqueue] at hr
    rcases mem_append.mp hr with hr | hr
    · obtain ⟨t, ht, hid⟩ := h.ownRelease client hholder hup r hr hrel
      exact ⟨t, hreleasing client t ht, hid⟩
    · obtain rfl := mem_singleton.mp hr
      have hbody : body = .command .release := by simpa [isRelease] using hrel
      obtain ⟨t, ht, hc⟩ := hrelease hrel client hholder
      have hopen := hnew t ht
      have hcommand : t.command = .release := command.inj (hopen.body.symm.trans hbody)
      exact ⟨t, ⟨mem_append_right _ (Option.mem_toList.mpr ht), hc, hcommand⟩, hopen.id⟩
  case holding =>
    intro client hholder hup
    rcases h.holding client hholder hup with hl | ⟨t, ht, hg⟩
    · exact .inl hl
    · exact .inr ⟨t, hreleasing client t ht, hg⟩
  case queued =>
    intro r hr hin client hholder
    rcases mem_append.mp hr with hr | hr
    · exact h.queued r hr hin client hholder
    · obtain rfl := mem_singleton.mp hr
      exact hinput hin client hholder

/-! ### Requests and replies move -/

/-- What a step that only moves requests and replies along does; `f` says which tasks get
their reply. -/
structure Advance (s s' : Hub) (f : Task → Task) : Prop where
  tasks : s'.tasks = s.tasks.map f
  onlyReply : ∀ t, ∃ reply, f t = { t with reply := reply }
  pipeline : s'.pipeline <:+ s.pipeline
  nextId : s'.nextId = s.nextId
  fewer : ∀ id ∈ s'.travelling, id ∈ s.travelling
  distinct : s'.travelling.Nodup
  answered : ∀ t ∈ s.tasks, t.reply = none → (f t).reply ≠ none → t.id ∉ s'.travelling
  down : s'.up = false → s'.wire = [] ∧ s'.replies = []
  up : s'.up = true → s.up = true
  holder : s'.holder = s.holder
  leasing : ∀ t ∈ s.tasks, t.command.isAcquire → s'.up = true → s'.Granted (f t) →
    s'.leased = true
  holding : ∀ client, s.holder = some client → s'.up = true → s'.leased = true ∨
    ∃ t, s.Releasing client t ∧ s'.Granted (f t)
  standing : s'.standing = s.standing
  displaced : s'.displaced = s.displaced
  mailbox : ∀ r ∈ s'.mailbox, r ∈ s.mailbox
  inputs : ∀ entry ∈ s'.inputs, entry ∈ s.inputs ∨
    ∃ r ∈ s.mailbox, r.body.isInput ∧ entry = (r.client, s.holder)

variable {f : Task → Task}

theorem Advance.sound (a : Advance s s' f) (h : s.Sound) : s'.Sound := by
  have hsame : ∀ t, (f t).client = t.client ∧ (f t).command = t.command ∧ (f t).id = t.id := by
    intro t
    obtain ⟨reply, heq⟩ := a.onlyReply t
    simp [heq]
  have hmem : ∀ u ∈ s'.tasks, ∃ t ∈ s.tasks, f t = u := by
    intro u hu
    rw [a.tasks] at hu
    exact mem_map.mp hu
  have hreleasing : ∀ client t, s.Releasing client t → s'.Releasing client (f t) := by
    intro client t ht
    obtain ⟨hc, hcommand, -⟩ := hsame t
    refine ⟨?_, hc.trans ht.2.1, hcommand.trans ht.2.2⟩
    rw [a.tasks]
    exact mem_map_of_mem ht.1
  have hrequest : ∀ r ∈ s'.pipeline, r ∈ s.pipeline := fun r hr => a.pipeline.subset hr
  refine .mk ?issued a.distinct ?clients ?ids ?replied ?requested a.down ?acquiring ?leasing
    ?alone ?cooperating ?ownRelease ?holding ?standing (a.displaced.trans h.undisplaced) ?queued
    ?gated
  case issued =>
    intro id hid
    rw [a.nextId]
    exact h.issued id (a.fewer id hid)
  case clients =>
    have hclients : s'.tasks.map (·.client) = s.tasks.map (·.client) := by
      rw [a.tasks, map_map]
      exact map_congr_left fun t _ => (hsame t).1
    rw [hclients]
    exact h.clients
  case ids =>
    intro u hu
    obtain ⟨t, ht, rfl⟩ := hmem u hu
    rw [(hsame t).2.2, a.nextId]
    exact h.ids t ht
  case replied =>
    intro u hu hreply hid
    obtain ⟨t, ht, rfl⟩ := hmem u hu
    rw [(hsame t).2.2] at hid
    by_cases hnone : t.reply = none
    · exact a.answered t ht hnone hreply hid
    · exact h.replied t ht hnone (a.fewer _ hid)
  case requested =>
    intro r hr u hu hid
    obtain ⟨t, ht, rfl⟩ := hmem u hu
    obtain ⟨-, hcommand, hid'⟩ := hsame t
    rw [hcommand]
    exact h.requested r (hrequest r hr) t ht (hid.trans hid')
  case acquiring =>
    intro u hu hacq before r behind hsplit hr
    obtain ⟨t, ht, rfl⟩ := hmem u hu
    obtain ⟨-, hcommand, hid⟩ := hsame t
    rw [hcommand] at hacq
    obtain ⟨front, hfront⟩ := a.pipeline
    have hwhole : s.pipeline = (front ++ before) ++ r :: behind := by
      rw [← hfront, hsplit, append_assoc]
    rw [hid]
    exact h.acquiring t ht hacq _ r behind hwhole hr
  case leasing =>
    intro u hu hacq hup hg
    obtain ⟨t, ht, rfl⟩ := hmem u hu
    rw [(hsame t).2.1] at hacq
    exact a.leasing t ht hacq hup hg
  case alone =>
    intro u hu hcoop v hv hacq
    obtain ⟨t, ht, rfl⟩ := hmem u hu
    obtain ⟨w, hw, rfl⟩ := hmem v hv
    rw [(hsame t).2.1] at hcoop
    rw [(hsame w).2.1] at hacq
    rw [(hsame t).1, (hsame w).1]
    exact h.alone t ht hcoop w hw hacq
  case cooperating =>
    intro u hu hcoop client hholder
    obtain ⟨t, ht, rfl⟩ := hmem u hu
    rw [(hsame t).2.1] at hcoop
    rw [(hsame t).1]
    exact h.cooperating t ht hcoop client (a.holder ▸ hholder)
  case ownRelease =>
    intro client hholder hup r hr hrel
    obtain ⟨t, ht, hid⟩ :=
      h.ownRelease client (a.holder ▸ hholder) (a.up hup) r (hrequest r hr) hrel
    exact ⟨f t, hreleasing client t ht, (hsame t).2.2.trans hid⟩
  case holding =>
    intro client hholder hup
    rcases a.holding client (a.holder ▸ hholder) hup with hl | ⟨t, ht, hg⟩
    · exact .inl hl
    · exact .inr ⟨f t, hreleasing client t ht, hg⟩
  case standing =>
    intro client hc
    rw [a.standing] at hc
    rw [a.holder]
    exact h.standing client hc
  case queued =>
    intro r hr hin client hholder
    exact h.queued r (a.mailbox r hr) hin client (a.holder ▸ hholder)
  case gated =>
    intro entry hentry client hc
    rcases a.inputs entry hentry with hold | ⟨r, hr, hin, rfl⟩
    · exact h.gated entry hold client hc
    · exact h.queued r hr hin client hc

theorem Sound.transmit (h : s.Sound) : s.transmit.Sound := by
  unfold Hub.transmit
  split
  · rename_i req rest hup hmailbox
    have hpipe : s.wire ++ [req] ++ rest = s.pipeline := by simp [pipeline, hmailbox]
    have hhead : req ∈ s.mailbox := by
      rw [hmailbox]
      exact mem_cons_self
    refine Advance.sound (f := id) ?_ h
    exact {
      tasks := (map_id _).symm
      onlyReply := fun t => ⟨t.reply, rfl⟩
      pipeline := ⟨[], hpipe⟩
      nextId := rfl
      fewer := by
        intro id hid
        rwa [travelling, ← hpipe]
      distinct := by
        have hd := h.distinct
        rwa [travelling, ← hpipe] at hd
      answered := fun t _ hnone hreply => absurd hnone hreply
      down := fun hdown => absurd hup (by rw [hdown]; decide)
      up := fun hup => hup
      holder := rfl
      leasing := h.leasing
      holding := h.holding
      standing := rfl
      displaced := rfl
      mailbox := by
        intro r hr
        rw [hmailbox]
        exact mem_cons_of_mem _ hr
      inputs := by
        intro entry hentry
        by_cases hin : req.body.isInput
        · rw [if_pos hin] at hentry
          rcases mem_append.mp hentry with hold | hnew
          · exact .inl hold
          · exact .inr ⟨req, hhead, hin, mem_singleton.mp hnew⟩
        · rw [if_neg hin] at hentry
          exact .inl hentry }
  · exact h

/-- The satellite takes a request: `replies` is what it sends back, `leased` what it leaves. -/
theorem Sound.take {r : RelayRequest} {rest : List RelayRequest} {leased : Bool}
    {replies : List (Nat × CommandResult)} (h : s.Sound) (hwire : s.wire = r :: rest)
    (hids : (replies.map (·.1)).Sublist [r.id])
    (hfreed : leased = false → s.leased = true → r.body.isRelease ∧
      ∃ result, (r.id, result) ∈ replies ∧ isError result = false)
    (hgrants : ∀ result, (r.id, result) ∈ replies → isError result = false →
      ∀ command, r.body = .command command → command.isAcquire → leased = true) :
    ({ s with wire := rest, replies := s.replies ++ replies, leased := leased } : Hub).Sound := by
  have hpipe : s.pipeline = r :: (rest ++ s.mailbox) := by rw [pipeline, hwire, cons_append]
  have hr : r ∈ s.pipeline := by
    rw [hpipe]
    exact mem_cons_self
  have hup : s.up = true := by
    by_contra hdown
    have hnil := (h.down (by simpa using hdown)).1
    rw [hwire] at hnil
    cases hnil
  have hnew : ∀ id result, (id, result) ∈ replies → id = r.id := by
    intro id result hm
    exact mem_singleton.mp (hids.subset (mem_map.mpr ⟨_, hm, rfl⟩))
  have hsub : ((rest ++ s.mailbox).map (·.id) ++ (s.replies ++ replies).map (·.1)).Subperm
      s.travelling := by
    have hreplies : (s.replies ++ replies).map (·.1) = s.replies.map (·.1) ++ replies.map (·.1) :=
      map_append
    rw [travelling, hpipe, map_cons, hreplies, ← append_assoc]
    refine (Sublist.append_left hids _).subperm.trans ?_
    exact (perm_append_singleton _ _).subperm
  have hdistinct := hsub
  obtain ⟨l, hperm, hl⟩ := hdistinct
  refine Advance.sound (f := id) ?_ h
  exact {
    tasks := (map_id _).symm
    onlyReply := fun t => ⟨t.reply, rfl⟩
    pipeline := ⟨[r], hpipe.symm⟩
    nextId := rfl
    fewer := fun id hid => hsub.subset hid
    distinct := hperm.nodup_iff.mp (h.distinct.sublist hl)
    answered := fun t _ hnone hreply => absurd hnone hreply
    down := fun hdown => absurd hup (by rw [hdown]; decide)
    up := fun _ => hup
    holder := rfl
    leasing := by
      intro t ht hacq _ hg
      by_contra hfalse
      have hl : leased = false := by simpa using hfalse
      have hold : s.Granted t → False := by
        intro hgt
        -- a release taken now stands before the acquire's req, which was already answered
        obtain ⟨hrel, -⟩ := hfreed hl (h.leasing t ht hacq hup hgt)
        have hbehind := h.acquiring t ht hacq [] r _ hpipe (.inl hrel)
        rcases hgt with hgt | ⟨result, hm, _⟩
        · refine h.replied t ht ?_ (mem_pipeline ?_)
          · intro hnone
            simp [Task.granted, hnone] at hgt
          · rw [hpipe]
            exact mem_cons_of_mem _ hbehind
        · have hd := h.distinct
          rw [travelling, hpipe, map_cons, cons_append, nodup_cons] at hd
          exact (nodup_append.mp hd.2).2.2 _ hbehind _ (mem_map.mpr ⟨_, hm, rfl⟩) rfl
      rcases hg with hg | ⟨result, hm, hok⟩
      · exact hold (.inl hg)
      · rcases mem_append.mp hm with hm | hm
        · exact hold (.inr ⟨result, hm, hok⟩)
        · have hid := hnew _ _ hm
          have hbody := h.requested r hr t ht hid.symm
          have hm' : (r.id, result) ∈ replies := hid ▸ hm
          exact hfalse (hgrants result hm' hok _ hbody hacq)
    holding := by
      intro client hholder _
      have hkeep : ∀ t, s.Granted t → ({ s with
          wire := rest, replies := s.replies ++ replies, leased := leased } : Hub).Granted t := by
        intro t hg
        exact hg.imp_right fun ⟨result, hm, hok⟩ => ⟨result, mem_append_left _ hm, hok⟩
      rcases h.holding client hholder hup with hl | ⟨t, ht, hg⟩
      · cases hleased : leased with
        | true => exact .inl rfl
        | false =>
          obtain ⟨hrel, result, hm, hok⟩ := hfreed hleased hl
          obtain ⟨t, ht, hid⟩ := h.ownRelease client hholder hup r hr hrel
          exact .inr ⟨t, ht, .inr ⟨result, mem_append_right _ (hid ▸ hm), hok⟩⟩
      · exact .inr ⟨t, ht, hkeep t hg⟩
    standing := rfl
    displaced := rfl
    mailbox := fun _ hr => hr
    inputs := fun _ hentry => .inl hentry }

theorem Sound.serve (h : s.Sound) (result : CommandResult) : (s.serve result).Sound := by
  unfold Hub.serve
  split
  · rename_i id owner command rest hwire
    refine h.take hwire (.refl _) ?_ ?_
    · intro hfree hl
      cases hok : isError result with
      | true => simp [hok, hl] at hfree
      | false =>
        cases command with
        | acquire mode => simp [hok] at hfree
        | release => exact ⟨rfl, result, mem_singleton_self _, hok⟩
        | route => simp [hok, hl] at hfree
    · intro result' hm hok command' hbody hacq
      obtain rfl := RelayBody.command.inj hbody
      obtain rfl : result' = result := (Prod.mk.inj (mem_singleton.mp hm)).2
      cases command with
      | acquire mode => simp [hok]
      | release | route => cases hacq
  · rename_i req rest hnot hwire
    have hnone : s.replies ++ [] = s.replies := append_nil _
    have hkept : s.leased = false → s.leased = true → req.body.isRelease ∧
        ∃ result, (req.id, result) ∈ [] ∧ isError result = false := by
      intro hfree hl
      rw [hl] at hfree
      cases hfree
    have hids : (([] : List (Nat × CommandResult)).map (·.1)).Sublist [req.id] := nil_sublist _
    have htake := h.take hwire hids hkept fun _ hm => by cases hm
    rwa [hnone] at htake
  · exact h

theorem settled_onlyReply (id : Nat) (t : Task) :
    ∃ reply, t.settled id result = { t with reply := reply } := by
  by_cases hwaits : t.id = id ∧ t.reply.isNone
  · exact ⟨some result, by simp [Task.settled, hwaits]⟩
  · exact ⟨t.reply, by rw [Task.settled, if_neg hwaits]⟩

theorem settled_answered (hnone : t.reply = none) (h : (t.settled id result).reply ≠ none) :
    t.id = id := by
  by_contra hid
  simp [Task.settled, hid, hnone] at h

theorem settled_granted (h : (t.settled id result).granted = true) :
    t.granted = true ∨ t.id = id ∧ isError result = false := by
  by_cases hwaits : t.id = id ∧ t.reply.isNone
  · refine .inr ⟨hwaits.1, ?_⟩
    simpa [Task.settled, hwaits, Task.granted] using h
  · rw [Task.settled, if_neg hwaits] at h
    exact .inl h

theorem Sound.deliver (h : s.Sound) : s.deliver.Sound := by
  unfold Hub.deliver
  split
  · rename_i id result rest hreplies
    have hd := h.distinct
    rw [travelling, hreplies, map_cons] at hd
    have hperm := (perm_middle : (s.pipeline.map (·.id) ++ id :: rest.map (·.1)).Perm _)
    obtain ⟨hout, hrest⟩ := nodup_cons.mp (hperm.nodup_iff.mp hd)
    have htravel : id ∈ s.travelling := by
      have hhead : (id, result) ∈ s.replies := by
        rw [hreplies]
        exact mem_cons_self
      exact mem_replies hhead
    have hback : ∀ entry, entry ∈ rest → entry ∈ s.replies := by
      intro entry hm
      rw [hreplies]
      exact mem_cons_of_mem _ hm
    have hid : ∀ t : Task, (t.settled id result).id = t.id := by
      intro t
      obtain ⟨reply, heq⟩ := settled_onlyReply id t
      rw [heq]
    refine Advance.sound (f := Task.settled id result) ?_ h
    exact {
      tasks := rfl
      onlyReply := settled_onlyReply id
      pipeline := suffix_refl _
      nextId := rfl
      fewer := by
        intro id' hid'
        rw [travelling, hreplies, map_cons]
        exact hperm.mem_iff.mpr (mem_cons_of_mem _ hid')
      distinct := hrest
      answered := by
        intro t _ hnone hreply
        rw [settled_answered hnone hreply]
        exact hout
      down := by
        intro hdown
        have hnil := (h.down hdown).2
        rw [hreplies] at hnil
        cases hnil
      up := fun hup => hup
      holder := rfl
      leasing := by
        intro t ht hacq hup hg
        refine h.leasing t ht hacq hup ?_
        rcases hg with hg | ⟨result', hm, hok⟩
        · rcases settled_granted hg with hg | ⟨rfl, hok⟩
          · exact .inl hg
          · refine .inr ⟨result, ?_, hok⟩
            rw [hreplies]
            exact mem_cons_self
        · rw [hid] at hm
          exact .inr ⟨result', hback _ hm, hok⟩
      holding := by
        intro client hholder hup
        rcases h.holding client hholder hup with hl | ⟨t, ht, hg⟩
        · exact .inl hl
        · refine .inr ⟨t, ht, ?_⟩
          rcases hg with hg | ⟨result', hm, hok⟩
          · have hsome : t.reply.isNone = false := by
              cases hreply : t.reply with
              | none => simp [Task.granted, hreply] at hg
              | some r => rfl
            exact .inl (by simpa [Task.settled, hsome] using hg)
          · rw [hreplies] at hm
            rcases mem_cons.mp hm with heq | hm
            · obtain ⟨htid, rfl⟩ := Prod.mk.inj heq
              have hnone : t.reply = none := by
                by_contra hreply
                exact h.replied t ht.1 hreply (htid.symm ▸ htravel)
              exact .inl (by simp [Task.settled, htid, hnone, Task.granted, hok])
            · refine .inr ⟨result', ?_, hok⟩
              rw [hid]
              exact hm
      standing := rfl
      displaced := rfl
      mailbox := fun _ hr => hr
      inputs := fun _ hentry => .inl hentry }
  · exact h

theorem Sound.whileDown (h : s.Sound) (htasks : s'.tasks = s.tasks.map f)
    (honly : ∀ t, ∃ reply, f t = { t with reply := reply }) (hpipe : s'.pipeline <:+ s.pipeline)
    (hanswered : ∀ t ∈ s.tasks, t.reply = none → (f t).reply ≠ none → t.id ∉ s'.pipeline.map (·.id))
    (hnext : s'.nextId = s.nextId) (hdown : s'.up = false) (hwire : s'.wire = [])
    (hreplies : s'.replies = []) (hholder : s'.holder = s.holder)
    (hstanding : s'.standing = s.standing) (hdisplaced : s'.displaced = s.displaced)
    (hmailbox : ∀ r ∈ s'.mailbox, r ∈ s.mailbox) (hinputs : s'.inputs = s.inputs) :
    s'.Sound := by
  have htravel : s'.travelling = s'.pipeline.map (·.id) := by
    rw [travelling, hreplies, map_nil, append_nil]
  have hsub : s'.travelling.Sublist s.travelling := by
    rw [htravel]
    exact (hpipe.sublist.map _).trans (sublist_append_left _ _)
  have hnot : s'.up ≠ true := by simp [hdown]
  exact Advance.sound (f := f) {
    tasks := htasks, onlyReply := honly, pipeline := hpipe, nextId := hnext
    fewer := fun _ hid => hsub.subset hid
    distinct := h.distinct.sublist hsub
    answered := htravel.symm ▸ hanswered
    down := fun _ => ⟨hwire, hreplies⟩
    up := fun hup => absurd hup hnot
    holder := hholder
    leasing := fun _ _ _ hup => absurd hup hnot
    holding := fun _ _ hup => absurd hup hnot
    standing := hstanding, displaced := hdisplaced, mailbox := hmailbox
    inputs := fun _ hentry => .inl (hinputs ▸ hentry) } h

theorem Sound.failFast (h : s.Sound) (why : String) : (s.failFast why).Sound := by
  unfold Hub.failFast
  split
  · rename_i req rest hup hmailbox
    obtain ⟨hwire, hreplies⟩ := h.down hup
    have hpipe : s.pipeline = req :: rest := by rw [pipeline, hwire, hmailbox, nil_append]
    have hd := h.distinct
    rw [travelling, hpipe, map_cons, cons_append] at hd
    refine h.whileDown (f := .settled req.id (s.unreachable why)) rfl (settled_onlyReply _)
      ?_ ?_ rfl hup hwire hreplies rfl rfl rfl ?_ rfl
    · refine ⟨[req], ?_⟩
      rw [hpipe]
      simp [pipeline, settle, hwire]
    · intro t _ hnone hreply hm
      rw [settled_answered hnone hreply] at hm
      simp only [pipeline, settle, hwire, nil_append] at hm
      exact (nodup_cons.mp hd).1 (mem_append_left _ hm)
    · intro r hr
      rw [hmailbox]
      exact mem_cons_of_mem _ hr
  · exact h

theorem Sound.linkDown (h : s.Sound) (why : String) : (s.linkDown why).Sound := by
  refine h.whileDown rfl ?_ ?_ ?_ rfl rfl rfl rfl rfl rfl rfl (fun _ hr => hr) rfl
  · intro t
    by_cases hlost : t.reply.isNone ∧ t.id ∉ s.mailbox.map (·.id)
    · exact ⟨some (s.unreachable why), by rw [Task.failed, if_pos hlost]⟩
    · exact ⟨t.reply, by rw [Task.failed, if_neg hlost]⟩
  · exact suffix_append _ _
  · intro t _ hnone hreply
    by_contra hm
    have hwaits : ¬(t.reply.isNone ∧ t.id ∉ s.mailbox.map (·.id)) := fun hlost => hlost.2 hm
    rw [Task.failed, if_neg hwaits] at hreply
    exact hreply hnone

/-! ### Tasks end and the ledger changes -/

theorem Sound.answer (h : s.Sound) (client : ClientId) (result : CommandResult) :
    (s.answer client result).Sound :=
  { h with }

theorem Sound.drop (h : s.Sound)
    (hrefused : ∀ t, s.Releasing client t → s.holder = some client → t.reply ≠ none ∧ t.granted = false) :
    (s.drop client).Sound := by
  have hmem : ∀ t ∈ (s.drop client).tasks, t ∈ s.tasks := fun t ht => (mem_filter.mp ht).1
  have hstays : ∀ c t, s.Releasing c t → c ≠ client → (s.drop client).Releasing c t := by
    intro c t ht hne
    refine ⟨mem_filter.mpr ⟨ht.1, ?_⟩, ht.2⟩
    rw [ht.2.1]
    simpa using hne
  exact { h with
    clients := h.clients.sublist (filter_sublist.map _)
    ids := fun t ht => h.ids t (hmem t ht)
    replied := fun t ht => h.replied t (hmem t ht)
    requested := fun r hr t ht => h.requested r hr t (hmem t ht)
    acquiring := fun t ht => h.acquiring t (hmem t ht)
    leasing := fun t ht => h.leasing t (hmem t ht)
    alone := fun t ht hcoop u hu => h.alone t (hmem t ht) hcoop u (hmem u hu)
    cooperating := fun t ht => h.cooperating t (hmem t ht)
    ownRelease := by
      intro c hholder hup r hr hrel
      obtain ⟨t, ht, hid⟩ := h.ownRelease c hholder hup r hr hrel
      by_cases hc : c = client
      · obtain ⟨hreply, -⟩ := hrefused t (hc ▸ ht) (hc ▸ hholder)
        have htravel : t.id ∈ s.travelling := mem_pipeline (hid ▸ mem_map_of_mem hr)
        exact absurd htravel (h.replied t ht.1 hreply)
      · exact ⟨t, hstays c t ht hc, hid⟩
    holding := by
      intro c hholder hup
      rcases h.holding c hholder hup with hl | ⟨t, ht, hg⟩
      · exact .inl hl
      · by_cases hc : c = client
        · obtain ⟨hreply, hnot⟩ := hrefused t (hc ▸ ht) (hc ▸ hholder)
          rcases hg with hg | ⟨result, hm, _⟩
          · rw [hnot] at hg
            cases hg
          · exact absurd (mem_replies hm) (h.replied t ht.1 hreply)
        · exact .inr ⟨t, hstays c t ht hc, hg⟩ }

theorem filter_holder {holder : Option ClientId} {c : ClientId} :
    holder.filter (· ≠ client) = some c ↔ holder = some c ∧ c ≠ client := by
  simp [Option.filter_eq_some_iff]

theorem Sound.recordRelease (h : s.Sound) (client : ClientId) : (s.recordRelease client).Sound where
  __ := h
  cooperating t ht hcoop c hholder := h.cooperating t ht hcoop c (filter_holder.mp hholder).1
  ownRelease c hholder := h.ownRelease c (filter_holder.mp hholder).1
  holding c hholder := h.holding c (filter_holder.mp hholder).1
  standing c hc := by
    obtain ⟨hc, hne⟩ := mem_filter.mp hc
    exact filter_holder.mpr ⟨h.standing c hc, by simpa using hne⟩
  queued r hr hin c hholder := h.queued r hr hin c (filter_holder.mp hholder).1

variable {mode : InputMode}

theorem Sound.recordAcquire (h : s.Sound) (ht : t ∈ s.tasks)
    (hcommand : t.command = .acquire mode) (hg : t.granted = true) :
    (s.recordAcquire t.client mode).Sound := by
  have hacq : t.command.isAcquire := by
    rw [hcommand]
    rfl
  have hreply : t.reply ≠ none := by
    intro hnone
    simp [Task.granted, hnone] at hg
  -- what should be ahead of the acquire's req has gone: that req has come back
  have hgone : ∀ r ∈ s.pipeline, ¬ Yields r := by
    intro r hr hyields
    obtain ⟨before, behind, hsplit⟩ := append_of_mem hr
    have hbehind := h.acquiring t ht hacq before r behind hsplit hyields
    have hid : t.id ∈ s.pipeline.map (·.id) := by
      rw [hsplit, map_append, map_cons]
      exact mem_append_right _ (mem_cons_of_mem _ hbehind)
    exact h.replied t ht hreply (mem_pipeline hid)
  have hstanding : mode = .cooperative → s.standing.filter (· ≠ t.client) = [] := by
    intro hmode
    rw [filter_eq_nil_iff]
    intro c hc
    have hc' := h.cooperating t ht (hmode ▸ hcommand) c (h.standing c hc)
    simp [hc']
  exact { h with
    cooperating := by
      intro u hu hcoop c hholder
      obtain rfl := Option.some.inj hholder
      exact h.alone u hu hcoop t ht hacq
    ownRelease := fun c _ _ r hr hrel => absurd (.inl hrel) (hgone r hr)
    holding := fun c _ hup => .inl (h.leasing t ht hacq hup (.inl hg))
    standing := by
      intro c hc
      cases mode with
      | cooperative =>
        simp only [recordAcquire, hstanding rfl, reduceCtorEq, if_false] at hc
        rw [mem_singleton.mp hc]
        rfl
      | seize =>
        simp only [recordAcquire, if_true] at hc
        rw [mem_singleton.mp hc]
        rfl
    undisplaced := by
      cases mode with
      | cooperative =>
        simp only [recordAcquire, hstanding rfl, reduceCtorEq, if_false, h.undisplaced]
        rfl
      | seize =>
        simp only [recordAcquire, if_true, h.undisplaced]
        rfl
    queued := fun r hr hin => absurd (.inr hin) (hgone r (mem_append_right _ hr)) }

/-! ### Every step of an orderly run -/

theorem not_barred (h : ¬ s.barred client) : ∀ c, s.holder = some c → c = client := by
  intro c hc
  simpa [barred, hc] using h

def Quiet (s : Hub) : Prop := ∀ t ∈ s.tasks, t.command.isAcquire = false

/-- Lease traffic that does not overlap. An acquire that gets past the ledger overlaps no other,
unless both seize; no release and no input starts behind a waiting acquire; the holder's release
is not given up on; and the link comes back with nobody on record. -/
def Orderly (s : Hub) : Step → Prop
  | .acquire client mode => s.busy client ∨ (mode = .cooperative ∧ s.barred client) ∨
      ∀ t ∈ s.tasks, t.command.isAcquire → mode = .seize ∧ t.command = .acquire .seize
  | .release client => s.busy client ∨ s.barred client ∨ s.Quiet
  | .route client => s.busy client ∨ s.barred client ∨ s.Quiet
  | .input client _ => s.busy client ∨ s.barred client ∨ s.Quiet
  | .disconnect client => s.busy client ∨ s.holder ≠ some client ∨ s.Quiet
  | .timeout client => s.holder = some client → ∀ t ∈ s.tasks, t.client = client →
      t.command ≠ .release
  | .linkUp => s.up = true ∨ s.holder = none ∧
      ∀ t ∈ s.tasks, t.command.isAcquire → t.granted = false
  | _ => True

instance : Decidable s.Quiet := inferInstanceAs (Decidable (∀ t ∈ s.tasks, _))

instance : ∀ step, Decidable (s.Orderly step)
  | .acquire _ _ => inferInstanceAs (Decidable (_ ∨ _ ∨ _))
  | .release _ | .route _ | .input _ _ | .disconnect _ => inferInstanceAs (Decidable (_ ∨ _ ∨ _))
  | .timeout _ => inferInstanceAs (Decidable (_ → _))
  | .linkUp => inferInstanceAs (Decidable (_ ∨ _))
  | .traffic _ | .transmit | .serve _ | .deliver | .failFast _ | .resume _ | .linkDown _ =>
    isTrue trivial

variable (h : s.Sound)

include h

theorem Sound.relay {command : LeaseCommand} (hidle : ¬ s.busy client)
    (halone : ∀ u ∈ s.tasks, u.command.isAcquire → command.isAcquire →
      command = .acquire .seize ∧ u.command = .acquire .seize)
    (hquiet : command.isAcquire = false → s.Quiet)
    (hclear : command ≠ .acquire .seize → ∀ c, s.holder = some c → c = client) :
    (s.relay client command).Sound := by
  unfold Hub.relay
  split
  · exact h.answer _ _
  · have hyields : (RelayBody.command command).isRelease ∨ (RelayBody.command command).isInput →
        command.isAcquire = false := by
      cases command <;> simp [RelayBody.isRelease, RelayBody.isInput, LeaseCommand.isAcquire]
    have hplain : command.isAcquire = false → command ≠ .acquire .seize := by
      rintro hacq rfl
      cases hacq
    show (s.enqueue client (.command command) (some ⟨client, command, s.nextId, none⟩)).Sound
    refine h.enqueue ?_ (fun hy => hquiet (hyields hy)) ?_
      fun hin => hclear (hplain (hyields (.inr hin)))
    · rintro t ht
      obtain rfl := Option.some.inj ht
      refine ⟨rfl, rfl, rfl, fun u hu hc => hidle ?_, halone, fun hcoop => ?_⟩
      · rw [busy, any_eq_true]
        exact ⟨u, hu, by simpa using hc⟩
      have hne : command ≠ .acquire .seize := by
        rw [show command = .acquire .cooperative from hcoop]
        decide
      exact hclear hne
    · intro hrel c hholder
      exact ⟨_, rfl, (hclear (hplain (hyields (.inl hrel))) c hholder).symm⟩

theorem Sound.forward (hquiet : body.isRelease ∨ body.isInput → s.Quiet)
    (hrelease : body.isRelease → s.holder = none)
    (hinput : body.isInput → ∀ c, s.holder = some c → c = client) :
    (s.forward client body).Sound := by
  unfold Hub.forward
  split
  · exact h
  · have hkept : s.tasks ++ (none : Option Task).toList = s.tasks := append_nil _
    have hsound : (s.enqueue client body none).Sound :=
      h.enqueue (fun t ht => by cases ht) hquiet
        (fun hrel c hholder => by rw [hrelease hrel] at hholder; cases hholder) hinput
    rwa [Hub.enqueue, hkept] at hsound

theorem Sound.acquireInput (hidle : ¬ s.busy client)
    (horder : (mode = .cooperative ∧ s.barred client) ∨
      ∀ t ∈ s.tasks, t.command.isAcquire → mode = .seize ∧ t.command = .acquire .seize) :
    (s.acquireInput client mode).Sound := by
  have hpassed : (mode = .cooperative → ¬ s.barred client) →
      (s.relay client (.acquire mode)).Sound := by
    intro hpass
    have halone : ∀ t ∈ s.tasks, t.command.isAcquire → mode = .seize ∧
        t.command = .acquire .seize :=
      horder.resolve_left fun hbar => hpass hbar.1 hbar.2
    refine h.relay hidle ?_ (fun hacq => by cases hacq) ?_
    · intro u hu hacq _
      obtain ⟨rfl, hseize⟩ := halone u hu hacq
      exact ⟨rfl, hseize⟩
    · intro hcoop
      cases mode with
      | cooperative => exact not_barred (hpass rfl)
      | seize => exact absurd rfl hcoop
  unfold Hub.acquireInput
  split
  · rename_i holder hholder
    split
    · exact h.answer _ _
    · rename_i hself
      refine hpassed fun _ => ?_
      simpa [barred, hholder] using hself
  · rename_i hother
    refine hpassed fun hcoop => ?_
    cases hholder : s.holder with
    | none => simp [barred, hholder]
    | some holder => exact absurd hholder (hother holder hcoop)

theorem Sound.releaseInput (hidle : ¬ s.busy client)
    (horder : s.barred client ∨ s.Quiet) : (s.releaseInput client).Sound := by
  unfold Hub.releaseInput
  split
  · exact { h with standing := fun c hc => h.standing c (mem_filter.mp hc).1 }
  · rename_i hbar
    have hquiet := horder.resolve_left hbar
    refine h.relay hidle (fun _ _ _ hacq => by cases hacq) (fun _ => hquiet)
      fun _ => not_barred hbar

theorem Sound.routeInput (hidle : ¬ s.busy client)
    (horder : s.barred client ∨ s.Quiet) : (s.routeInput client).Sound := by
  unfold Hub.routeInput
  split
  · exact h.answer _ _
  · rename_i hbar
    have hquiet := horder.resolve_left hbar
    exact h.relay hidle (fun _ _ _ hacq => by cases hacq) (fun _ => hquiet) fun _ => not_barred hbar

theorem Sound.input (attached : Bool) (horder : s.barred client ∨ s.Quiet) :
    (s.input client attached).Sound := by
  unfold Hub.input
  split
  · exact h
  · rename_i hpass
    have hbar : ¬ s.barred client := by
      intro hbar
      simp [hbar] at hpass
    exact h.forward (fun _ => horder.resolve_left hbar) (fun hrel => by cases hrel)
      fun _ => not_barred hbar

omit h

theorem Sound.traffic (h : s.Sound) (client : ClientId) : (s.traffic client).Sound :=
  h.forward (fun hyields => by rcases hyields with hy | hy <;> cases hy)
    (fun hrel => by cases hrel) fun hin => by cases hin

theorem Sound.disconnect (h : s.Sound) (horder : s.holder ≠ some client ∨ s.Quiet) :
    (s.disconnect client).Sound := by
  unfold Hub.disconnect
  split
  · rename_i hholder
    have hquiet : s.Quiet := horder.resolve_left fun hne => hne hholder
    have hnone : (s.recordRelease client).holder = none := by simp [Hub.recordRelease, hholder]
    exact (h.recordRelease client).forward (fun _ => hquiet) (fun _ => hnone)
      fun hin => by cases hin
  · exact h.recordRelease client

theorem task_of_find (h : s.tasks.find? (·.client = client) = some t) :
    t ∈ s.tasks ∧ t.client = client :=
  ⟨mem_of_find?_eq_some h, by simpa using find?_some h⟩

theorem Sound.resume (h : s.Sound) (client : ClientId) : (s.resume client).Sound := by
  unfold Hub.resume
  split
  · rename_i owner command id result hfind
    obtain ⟨ht, rfl⟩ := task_of_find hfind
    -- the consumer has no other task, so its release could only be this one
    have honly : ∀ t, s.Releasing owner t → t = ⟨owner, command, id, some result⟩ :=
      fun t hrel => inj_on_of_nodup_map h.clients hrel.1 ht hrel.2.1
    dsimp only
    split
    · rename_i herror
      refine (h.drop ?_).answer _ _
      intro t hrel _
      have hreply : t.reply = some result := congrArg Task.reply (honly t hrel)
      simp [Task.granted, hreply, herror]
    · rename_i hok
      have hgranted : (⟨owner, command, id, some result⟩ : Task).granted = true := by
        simpa [Task.granted] using hok
      cases command with
      | acquire mode =>
        have hrecord := h.recordAcquire ht rfl hgranted
        refine (hrecord.drop ?_).answer owner result
        intro t hrel _
        have hcommand := congrArg Task.command (honly t hrel)
        rw [hrel.2.2] at hcommand
        cases hcommand
      | release =>
        have hrecord := h.recordRelease owner
        refine (hrecord.drop ?_).answer owner result
        intro t _ hholder
        exact absurd rfl (filter_holder.mp hholder).2
      | route =>
        refine (h.drop ?_).answer owner result
        intro t hrel _
        have hcommand := congrArg Task.command (honly t hrel)
        rw [hrel.2.2] at hcommand
        cases hcommand
  · exact h

theorem Sound.timeout (h : s.Sound)
    (horder : s.holder = some client → ∀ t ∈ s.tasks, t.client = client → t.command ≠ .release) :
    (s.timeout client).Sound := by
  unfold Hub.timeout
  split
  · refine (h.drop ?_).answer _ _
    intro t hrel hholder
    exact absurd hrel.2.2 (horder hholder t hrel.1 hrel.2.1)
  · exact h

theorem Sound.linkUp (h : s.Sound) (horder : s.up = true ∨ s.holder = none ∧
    ∀ t ∈ s.tasks, t.command.isAcquire → t.granted = false) :
    ({ s with up := true } : Hub).Sound := by
  by_cases hup : s.up = true
  · have hsame : ({ s with up := true } : Hub) = s := by rw [← hup]
    rwa [hsame]
  · obtain ⟨hnone, hnot⟩ := horder.resolve_left hup
    have hreplies := (h.down (by simpa using hup)).2
    have hnobody : ∀ c, s.holder ≠ some c := by simp [hnone]
    exact { h with
      down := fun hdown => by cases hdown
      leasing := by
        intro t ht hacq _ hg
        rcases hg with hg | ⟨result, hm, _⟩
        · rw [hnot t ht hacq] at hg
          cases hg
        · simp only [hreplies] at hm
          cases hm
      ownRelease := fun c hholder => absurd hholder (hnobody c)
      holding := fun c hholder => absurd hholder (hnobody c) }

theorem Sound.unlessBusy (h : s.Sound) (hnext : ¬ s.busy client → s'.Sound) :
    (s.unlessBusy client s').Sound := by
  unfold Hub.unlessBusy
  split
  · exact h
  · exact hnext ‹_›

theorem next_sound {step : Step} (h : s.Sound) (ho : s.Orderly step) : (s.next step).Sound := by
  cases step with
  | acquire client mode =>
    exact h.unlessBusy fun hidle => h.acquireInput hidle (ho.resolve_left hidle)
  | release client => exact h.unlessBusy fun hidle => h.releaseInput hidle (ho.resolve_left hidle)
  | route client => exact h.unlessBusy fun hidle => h.routeInput hidle (ho.resolve_left hidle)
  | input client attached =>
    exact h.unlessBusy fun hidle => h.input attached (ho.resolve_left hidle)
  | traffic client => exact h.traffic client
  | transmit => exact h.transmit
  | serve result => exact h.serve result
  | deliver => exact h.deliver
  | failFast why => exact h.failFast why
  | resume client => exact h.resume client
  | timeout client => exact h.timeout ho
  | disconnect client => exact h.unlessBusy fun hidle => h.disconnect (ho.resolve_left hidle)
  | linkDown why => exact h.linkDown why
  | linkUp => exact h.linkUp ho

/-- No cooperative acquire took the lease from a consumer that had it, the link has the
satellite's lease for a holder that is not itself releasing, and no input went past a lease. -/
structure Exclusive (s : Hub) : Prop where
  undisplaced : s.displaced = []
  held : ∀ client, s.holder = some client → s.up = true → (∀ t, ¬ s.Releasing client t) →
    s.leased = true
  gated : ∀ entry ∈ s.inputs, ∀ client, entry.2 = some client → client = entry.1

theorem Sound.exclusive (h : s.Sound) : s.Exclusive where
  undisplaced := h.undisplaced
  held client hholder hup hnot := by
    rcases h.holding client hholder hup with hl | ⟨t, ht, _⟩
    · exact hl
    · exact absurd ht (hnot t)
  gated := h.gated

end Hub

open Hub

theorem lease_exclusive (host : SatelliteHost) (steps : List Step)
    (horderly : Machine.EveryStep next Orderly (new host) steps) : (after host steps).Exclusive :=
  (horderly.invariant (fun _ _ => next_sound) (new_sound host)).exclusive

def granted (client : ClientId) : List Step := [.transmit, .serve .ok, .deliver, .resume client]

theorem lease_exclusive_shown : let steps := [.linkUp, .acquire ⟨1⟩ .cooperative] ++ granted ⟨1⟩ ++
      [.input ⟨1⟩ true, .input ⟨2⟩ true, .transmit, .acquire ⟨2⟩ .cooperative, .serve .ok,
        .acquire ⟨2⟩ .seize] ++ granted ⟨2⟩
    (after ⟨"web"⟩ steps).holder = some ⟨2⟩ ∧ (after ⟨"web"⟩ steps).Exclusive :=
  ⟨by decide, lease_exclusive _ _ (by decide)⟩

/-- Two cooperative acquires pass the ledger before either reply is back, and the second evicts
the first; a release sent by the holder behind a takeover frees the satellite's lease under the
new holder; and input sent while an acquire is on its way leaves past the new holder. -/
theorem overlapping_leases :
    let twice := after ⟨"web"⟩ ([.linkUp, .acquire ⟨1⟩ .cooperative, .acquire ⟨2⟩ .cooperative,
      .transmit, .transmit, .serve .ok, .serve .ok, .deliver, .deliver, .resume ⟨1⟩, .resume ⟨2⟩])
    let released := after ⟨"web"⟩ ([.linkUp, .acquire ⟨1⟩ .cooperative] ++ granted ⟨1⟩ ++
      [.acquire ⟨2⟩ .seize, .release ⟨1⟩] ++ granted ⟨2⟩ ++ granted ⟨1⟩)
    let typed := after ⟨"web"⟩ ([.linkUp, .acquire ⟨1⟩ .cooperative, .input ⟨2⟩ true] ++
      granted ⟨1⟩ ++ [.transmit])
    (twice.answers = [(⟨1⟩, .ok), (⟨2⟩, .ok)] ∧ twice.displaced = [(⟨2⟩, ⟨1⟩)])
      ∧ (released.holder = some ⟨2⟩ ∧ released.up = true ∧ released.tasks = [] ∧
        released.leased = false)
      ∧ typed.inputs = [(⟨2⟩, some ⟨1⟩)] :=
  ⟨⟨rfl, rfl⟩, ⟨rfl, rfl, rfl, rfl⟩, rfl⟩

end Phux.HubLease

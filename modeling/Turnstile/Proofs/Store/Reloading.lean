import Turnstile.Proofs.Dialogue.Course
import Turnstile.Proofs.Store.Replies
import Turnstile.Store.Rehearsed

/-!
# Commands to the server

What a client of the server sends for each thing it is asked to do, said without a program:
every way an increment, a read or a load can go, with the commands in order, the delivery of
each, what is reported, and the digest remembered afterwards. A delivery counts for what its
reply says (`Sense`), if it comes in time. The client does just that, whatever the server
delivers.

    hold answer s (r.perform job) = ⟨(report, r'), xs, t⟩ ↔ Answered answer s xs t ∧
      r' keeps the timeout ∧ job.Sends r.timeout r.digest xs report r'.digest
                                                                  (hold_perform_iff)
    in a run, each job begins with the digest of the last load that succeeded
                                                                  (sends_of_mem_work)
    an increment counts once at most, and three commands are the most
                                                                  (work_by_course)
-/

namespace Turnstile

open Dialogue

/-! ## Deliveries -/

namespace Delivery

/-- The delivery comes when it is no longer waited for. -/
def IsLate (timeout : Duration) (d : Delivery) : Prop := timeout.toNanos < d.delayMs * 1000000

instance (timeout : Duration) (d : Delivery) : Decidable (d.IsLate timeout) :=
  inferInstanceAs (Decidable (_ < _))

/-- In time, the server says that it does not know the script. -/
def MissesScript (timeout : Duration) (d : Delivery) : Prop :=
  ¬ d.IsLate timeout ∧ ∃ reason, d.reply = .error reason ∧ "NOSCRIPT".toList <:+: reason.toList

variable {α : Type}

/-- A reply in time that says `a`. -/
def Gives (timeout : Duration) (sense : Sense α) (d : Delivery) (a : α) : Prop :=
  ¬ d.IsLate timeout ∧ sense.Says d.reply a

/-- No reply in time, or one that says nothing. -/
inductive Fails (timeout : Duration) (sense : Sense α) (d : Delivery) : StoreFault → Prop
  | late : d.IsLate timeout → Fails timeout sense d (.timeout timeout)
  | lacking {why : String} : ¬ d.IsLate timeout → sense.Lacks d.reply why →
      Fails timeout sense d (.unavailable why)

end Delivery

/-! ## Jobs -/

/-- Commands to a server, each with what was delivered. -/
abbrev Traffic := List (Command × Delivery)

/-- What a client of the server is used for. -/
inductive Job where
  | call (c : StoreCall)
  | load
  deriving DecidableEq

/-- Two outcomes are compared by kind, then by what they carry. -/
instance decidableEqOutcome {ε α : Type} [DecidableEq ε] [DecidableEq α] :
    DecidableEq (Except ε α)
  | .ok a, .ok b => decidable_of_iff (a = b) (Except.ok.injEq a b).to_iff.symm
  | .error e, .error f => decidable_of_iff (e = f) (Except.error.injEq e f).to_iff.symm
  | .ok _, .error _ => isFalse nofun
  | .error _, .ok _ => isFalse nofun

/-- What comes of a job. -/
inductive Report where
  | answered (a : StoreAnswer)
  | loaded
  | notLoaded (why : String)
  deriving DecidableEq

/-- A job as the client does it. A load that fails leaves it as it was. -/
def Redis.perform (r : Redis) : Job → Wire (Report × Redis)
  | .call c => do
    let (a, r) ← r.answer c
    return (.answered a, r)
  | .load => do
    match ← r.load with
    | .ok r => return (.loaded, r)
    | .error f => return (.notLoaded f.message, r)

namespace Job

/-- The command that counts, which gives the script at least a millisecond. -/
def count (digest key : String) (ttl : Duration) : Command :=
  .callScript digest key (max 1 (ttl.toNanos / 1000000))

/-- `job.Sends timeout digest xs report digest'`: done by a client that remembers a digest, the
job sends the commands of `xs`, comes to the report, and leaves `digest'` remembered. -/
inductive Sends (timeout : Duration) (digest : String) :
    Job → Traffic → Report → String → Prop
  | counted {key ttl d n} : d.Gives timeout .number n →
      Sends timeout digest (.call (.increment key ttl)) [(count digest key ttl, d)]
        (.answered (.ok n)) digest
  | failed {key ttl d e} : d.Fails timeout .number e → ¬ d.MissesScript timeout →
      Sends timeout digest (.call (.increment key ttl)) [(count digest key ttl, d)]
        (.answered (.error e)) digest
  | notReloaded {key ttl d d' e} : d.MissesScript timeout → d'.Fails timeout .text e →
      Sends timeout digest (.call (.increment key ttl))
        [(count digest key ttl, d), (.loadScript, d')] (.answered (.error e)) digest
  | recounted {key ttl d d' d'' digest' n} : d.MissesScript timeout →
      d'.Gives timeout .text digest' → d''.Gives timeout .number n →
      Sends timeout digest (.call (.increment key ttl))
        [(count digest key ttl, d), (.loadScript, d'), (count digest' key ttl, d'')]
        (.answered (.ok n)) digest'
  /-- The server may miss the script once more; that is not mended. -/
  | failedAgain {key ttl d d' d'' digest' e} : d.MissesScript timeout →
      d'.Gives timeout .text digest' → d''.Fails timeout .number e →
      Sends timeout digest (.call (.increment key ttl))
        [(count digest key ttl, d), (.loadScript, d'), (count digest' key ttl, d'')]
        (.answered (.error e)) digest'
  | read {key d n} : d.Gives timeout .numberOrNil (some n) →
      Sends timeout digest (.call (.read key)) [(.get key, d)] (.answered (.ok n)) digest
  | absent {key d} : d.Gives timeout .numberOrNil none →
      Sends timeout digest (.call (.read key)) [(.get key, d)] (.answered (.error .notFound))
        digest
  | unread {key d e} : d.Fails timeout .numberOrNil e →
      Sends timeout digest (.call (.read key)) [(.get key, d)] (.answered (.error e)) digest
  /-- The first load is waited for, however long it takes. -/
  | loaded {d digest'} : Sense.text.Says d.reply digest' →
      Sends timeout digest .load [(.loadScript, d)] .loaded digest'
  | notLoaded {d why} : Sense.text.Lacks d.reply why →
      Sends timeout digest .load [(.loadScript, d)] (.notLoaded why) digest

end Job

/-! ## Lemmas -/

theorem Duration.toMillis_eq (d : Duration) : d.toMillis = d.toNanos / 1000000 := by
  unfold toMillis toNanos
  omega

namespace ClientFault

theorem occursIn_iff (needle cs : List Char) : occursIn needle cs = true ↔ needle <:+: cs := by
  induction cs with
  | nil => simp [occursIn]
  | cons c r ih =>
    rw [occursIn, Bool.or_eq_true, ih, List.isPrefixOf_iff_prefix, List.infix_cons_iff]

/-- Of all that can go wrong with a reply, only the server's own words name the script. -/
theorem isMissingScript_iff (f : ClientFault) :
    f.isMissingScript = true ↔
      ∃ reason, f = .refused reason ∧ "NOSCRIPT".toList <:+: reason.toList := by
  cases f with
  | refused reason =>
    have hfront : isMissingScript (.refused reason) = occursIn "NOSCRIPT".toList reason.toList := by
      unfold isMissingScript message
      rw [String.toList_append]
      rfl
    rw [hfront, occursIn_iff]
    simp
  | notANumber => exact ⟨fun h => absurd h (by decide), nofun⟩
  | nilNumber => exact ⟨fun h => absurd h (by decide), nofun⟩
  | nilText => exact ⟨fun h => absurd h (by decide), nofun⟩

end ClientFault

namespace Delivery

variable {α : Type} {timeout : Duration} {sense : Sense α} {d : Delivery}

/-- An error is no number. -/
theorem MissesScript.not_gives (h : d.MissesScript timeout) (n : Int64) :
    ¬ d.Gives timeout .number n := by
  rintro ⟨-, hsays⟩
  obtain ⟨-, reason, hreply, -⟩ := h
  rw [hreply] at hsays
  exact hsays

theorem Fails.ne_notFound {e : StoreFault} (h : d.Fails timeout sense e) : e ≠ .notFound := by
  cases h <;> exact nofun

variable {read : Reply → Except ClientFault α} (hreads : Reads read sense)
include hreads

theorem Fails.not_gives {e : StoreFault} (h : d.Fails timeout sense e) (a : α) :
    ¬ d.Gives timeout sense a := by
  rintro ⟨hlate, hsays⟩
  cases h with
  | late h => exact hlate h
  | lacking _ hlacks => exact hreads.not_says hlacks a hsays

theorem Gives.inj {a b : α} (h : d.Gives timeout sense a) (h' : d.Gives timeout sense b) :
    a = b := hreads.says_inj h.2 h'.2

end Delivery

namespace Redis

variable {α : Type} (r : Redis) (read : Reply → Except ClientFault α)

/-- What the client makes of a delivery. -/
def seen (d : Delivery) : Except WireFault α :=
  if r.timeout.toNanos < d.delayMs * 1000000 then .error .timedOut
  else (read d.reply).mapError .client

theorem request_eq (c : Command) : r.request c read = .ask c fun d => .done (r.seen read d) := rfl

variable {r read} {d : Delivery}

theorem seen_of_late (hlate : d.IsLate r.timeout) : r.seen read d = .error .timedOut :=
  if_pos hlate

theorem seen_of_in_time (hlate : ¬ d.IsLate r.timeout) :
    r.seen read d = (read d.reply).mapError .client := if_neg hlate

section
variable {sense : Sense α} (hreads : Reads read sense)
include hreads

theorem seen_of_gives {a : α} (h : d.Gives r.timeout sense a) : r.seen read d = .ok a := by
  rw [seen_of_in_time h.1, (hreads.ok_iff _ _).2 h.2]
  rfl

theorem seen_of_fails {e : StoreFault} (h : d.Fails r.timeout sense e) :
    ∃ w, r.seen read d = .error w ∧ r.storeFault w = e := by
  cases h with
  | late hlate => exact ⟨.timedOut, seen_of_late hlate, rfl⟩
  | lacking hlate hlacks =>
    obtain ⟨f, hread, rfl⟩ := (hreads.error_iff _ _).2 hlacks
    refine ⟨.client f, ?_, rfl⟩
    rw [seen_of_in_time hlate, hread]
    rfl

/-- A delivery is of use, or it is not. -/
theorem gives_or_fails (r : Redis) (d : Delivery) :
    (∃ a, r.seen read d = .ok a ∧ d.Gives r.timeout sense a) ∨
      ∃ w, r.seen read d = .error w ∧ d.Fails r.timeout sense (r.storeFault w) := by
  by_cases hlate : d.IsLate r.timeout
  · exact Or.inr ⟨.timedOut, seen_of_late hlate, .late hlate⟩
  · have hseen := @seen_of_in_time _ r read d hlate
    cases hread : read d.reply with
    | ok a =>
      rw [hread] at hseen
      exact Or.inl ⟨a, hseen, hlate, (hreads.ok_iff _ _).1 hread⟩
    | error f =>
      rw [hread] at hseen
      exact Or.inr ⟨.client f, hseen, .lacking hlate ((hreads.error_iff _ _).1 ⟨f, hread, rfl⟩)⟩

end

theorem missesScript_iff (r : Redis) (d : Delivery) :
    d.MissesScript r.timeout ↔
      ∃ f, r.seen Reply.count d = .error (.client f) ∧ f.isMissingScript = true := by
  constructor
  · rintro ⟨hlate, reason, hreply, hreason⟩
    refine ⟨.refused reason, ?_, (ClientFault.isMissingScript_iff _).2 ⟨reason, rfl, hreason⟩⟩
    rw [seen_of_in_time hlate, (Reply.count_eq_refused_iff _ _).2 hreply]
    rfl
  · rintro ⟨f, hseen, hf⟩
    obtain ⟨reason, rfl, hreason⟩ := (ClientFault.isMissingScript_iff f).1 hf
    by_cases hlate : d.IsLate r.timeout
    · rw [seen_of_late hlate] at hseen
      cases hseen
    · rw [seen_of_in_time hlate] at hseen
      refine ⟨hlate, reason, (Reply.count_eq_refused_iff _ _).1 ?_, hreason⟩
      cases hread : d.reply.count with
      | ok n => rw [hread] at hseen; cases hseen
      | error f => rw [hread] at hseen; cases hseen; rfl

/-! ## The client does its jobs -/

variable (r) (key : String) (ttl : Duration)

theorem callScript_eq : r.callScript key ttl =
    .ask (Job.count r.digest key ttl) fun d => .done (r.seen Reply.count d) := by
  rw [callScript, request_eq, Job.count, windowMs, Duration.toMillis_eq]

/-- What follows the first call of the script. -/
def afterCount : Except WireFault Int64 → Wire (StoreAnswer × Redis)
  | .ok n => .done (.ok n, r)
  | .error .timedOut => .done (.error (.timeout r.timeout), r)
  | .error (.client f) =>
    if f.isMissingScript then r.reloadAndCall key ttl
    else .done (.error (.unavailable f.message), r)

theorem increment_eq : r.increment key ttl =
    .ask (Job.count r.digest key ttl) fun d => r.afterCount key ttl (r.seen Reply.count d) := by
  rw [increment, callScript_eq, ask_bind]
  refine congrArg (Dialogue.ask _) (funext fun d => ?_)
  rw [done_bind]
  cases r.seen Reply.count d with
  | ok n => rfl
  | error w =>
    cases w with
    | timedOut => rfl
    | client f => rfl

theorem reloadAndCall_eq : r.reloadAndCall key ttl =
    .ask .loadScript fun d =>
      match r.seen Reply.digest d with
      | .error w => .done (.error (r.storeFault w), r)
      | .ok digest => .ask (Job.count digest key ttl) fun d =>
          .done ((r.seen Reply.count d).mapError r.storeFault, { r with digest }) := by
  rw [reloadAndCall, request_eq, ask_bind]
  refine congrArg (Dialogue.ask _) (funext fun d => ?_)
  rw [done_bind]
  cases r.seen Reply.digest d with
  | error w => rfl
  | ok digest =>
    show (({ r with digest } : Redis).callScript key ttl >>= _) = _
    rw [callScript_eq]
    rfl

variable {r key ttl}

theorem afterCount_of_misses (hmiss : d.MissesScript r.timeout) :
    r.afterCount key ttl (r.seen Reply.count d) = r.reloadAndCall key ttl := by
  obtain ⟨f, hseen, hf⟩ := (missesScript_iff r d).1 hmiss
  rw [hseen]
  exact if_pos hf

theorem afterCount_of_fails {e : StoreFault} (hfails : d.Fails r.timeout .number e)
    (hmiss : ¬ d.MissesScript r.timeout) :
    r.afterCount key ttl (r.seen Reply.count d) = .done (.error e, r) := by
  obtain ⟨w, hseen, rfl⟩ := seen_of_fails reads_count hfails
  rw [hseen]
  cases w with
  | timedOut => rfl
  | client f => exact if_neg fun hf => hmiss ((missesScript_iff r d).2 ⟨f, hseen, hf⟩)

theorem course_reloadAndCall_iff (hmiss : d.MissesScript r.timeout) (ys : Traffic)
    (a : StoreAnswer) (r' : Redis) :
    (r.reloadAndCall key ttl).Course ys (a, r') ↔
      ∃ digest', r' = { r with digest := digest' } ∧
        (Job.call (.increment key ttl)).Sends r.timeout r.digest
          ((Job.count r.digest key ttl, d) :: ys) (.answered a) digest' := by
  rw [reloadAndCall_eq, course_ask_iff]
  constructor
  · rintro ⟨d', ys, rfl, h⟩
    rcases gives_or_fails reads_digest r d' with ⟨digest', hseen, hgives⟩ | ⟨w, hseen, hfails⟩
    · rw [hseen] at h
      obtain ⟨d'', zs, rfl, hcall⟩ := (course_ask_iff _ _ _ _).1 h
      obtain ⟨rfl, he⟩ := (course_done_iff _ _ _).1 hcall
      obtain ⟨rfl, rfl⟩ := Prod.mk.inj he
      refine ⟨digest', rfl, ?_⟩
      rcases gives_or_fails reads_count r d'' with ⟨n, hseen, hgives'⟩ | ⟨w, hseen, hfails⟩
      · rw [hseen]
        exact .recounted hmiss hgives hgives'
      · rw [hseen]
        exact .failedAgain hmiss hgives hfails
    · rw [hseen] at h
      obtain ⟨rfl, he⟩ := (course_done_iff _ _ _).1 h
      obtain ⟨rfl, rfl⟩ := Prod.mk.inj he
      exact ⟨_, rfl, .notReloaded hmiss hfails⟩
  · rintro ⟨digest', rfl, h⟩
    cases h with
    | counted hgives => exact absurd hgives (hmiss.not_gives _)
    | failed _ hnot => exact absurd hmiss hnot
    | notReloaded _ hfails =>
      obtain ⟨w, hseen, rfl⟩ := seen_of_fails reads_digest hfails
      refine ⟨_, [], rfl, ?_⟩
      rw [hseen]
      exact .done _
    | recounted _ hgives hgives' =>
      refine ⟨_, _, rfl, ?_⟩
      rw [seen_of_gives reads_digest hgives]
      refine .ask ?_
      rw [seen_of_gives reads_count hgives']
      exact .done _
    | failedAgain _ hgives hfails =>
      obtain ⟨w, hseen, rfl⟩ := seen_of_fails reads_count hfails
      refine ⟨_, _, rfl, ?_⟩
      rw [seen_of_gives reads_digest hgives]
      refine .ask ?_
      rw [hseen]
      exact .done _

theorem course_increment_iff (xs : Traffic) (a : StoreAnswer) (r' : Redis) :
    (r.increment key ttl).Course xs (a, r') ↔
      ∃ digest', r' = { r with digest := digest' } ∧
        (Job.call (.increment key ttl)).Sends r.timeout r.digest xs (.answered a) digest' := by
  rw [increment_eq, course_ask_iff]
  constructor
  · rintro ⟨d, ys, rfl, h⟩
    by_cases hmiss : d.MissesScript r.timeout
    · rw [afterCount_of_misses hmiss] at h
      exact (course_reloadAndCall_iff hmiss ys a r').1 h
    · rcases gives_or_fails reads_count r d with ⟨n, hseen, hgives⟩ | ⟨w, hseen, hfails⟩
      · rw [hseen] at h
        obtain ⟨rfl, he⟩ := (course_done_iff _ _ _).1 h
        obtain ⟨rfl, rfl⟩ := Prod.mk.inj he
        exact ⟨_, rfl, .counted hgives⟩
      · rw [afterCount_of_fails hfails hmiss] at h
        obtain ⟨rfl, he⟩ := (course_done_iff _ _ _).1 h
        obtain ⟨rfl, rfl⟩ := Prod.mk.inj he
        exact ⟨_, rfl, .failed hfails hmiss⟩
  · rintro ⟨digest', rfl, h⟩
    have reloaded : ∀ {d : Delivery} {ys : Traffic} (_ : d.MissesScript r.timeout),
        xs = (Job.count r.digest key ttl, d) :: ys →
        ∃ d' ys', xs = (Job.count r.digest key ttl, d') :: ys' ∧
          (r.afterCount key ttl (r.seen Reply.count d')).Course ys'
            (a, { r with digest := digest' }) := by
      rintro d ys hmiss rfl
      refine ⟨d, ys, rfl, ?_⟩
      rw [afterCount_of_misses hmiss]
      exact (course_reloadAndCall_iff hmiss ys a _).2 ⟨digest', rfl, h⟩
    cases h with
    | counted hgives =>
      refine ⟨_, [], rfl, ?_⟩
      rw [seen_of_gives reads_count hgives]
      exact .done _
    | failed hfails hmiss =>
      refine ⟨_, [], rfl, ?_⟩
      rw [afterCount_of_fails hfails hmiss]
      exact .done _
    | notReloaded hmiss _ => exact reloaded hmiss rfl
    | recounted hmiss _ _ => exact reloaded hmiss rfl
    | failedAgain hmiss _ _ => exact reloaded hmiss rfl

/-- The answer of a read, by what was seen of the server's reply. -/
def readAnswer (r : Redis) : Except WireFault (Option Int64) → StoreAnswer
  | .ok (some n) => .ok n
  | .ok none => .error .notFound
  | .error w => .error (r.storeFault w)

theorem course_read_iff (xs : Traffic) (a : StoreAnswer) :
    (r.read key).Course xs a ↔
      (Job.call (.read key)).Sends r.timeout r.digest xs (.answered a) r.digest := by
  have hread : r.read key =
      .ask (.get key) fun d => .done (r.readAnswer (r.seen Reply.count? d)) := by
    rw [Redis.read, request_eq, ask_bind]
    refine congrArg (Dialogue.ask _) (funext fun d => ?_)
    rw [done_bind]
    cases r.seen Reply.count? d with
    | error w => rfl
    | ok n? => cases n? <;> rfl
  rw [hread, course_ask_iff]
  constructor
  · rintro ⟨d, ys, rfl, h⟩
    obtain ⟨rfl, rfl⟩ := (course_done_iff _ _ _).1 h
    rcases gives_or_fails reads_count? r d with ⟨n?, hseen, hgives⟩ | ⟨w, hseen, hfails⟩
    · rw [hseen]
      cases n? with
      | none => exact .absent hgives
      | some n => exact .read hgives
    · rw [hseen]
      exact .unread hfails
  · intro h
    cases h with
    | read hgives =>
      refine ⟨_, [], rfl, ?_⟩
      rw [seen_of_gives reads_count? hgives]
      exact .done _
    | absent hgives =>
      refine ⟨_, [], rfl, ?_⟩
      rw [seen_of_gives reads_count? hgives]
      exact .done _
    | unread hfails =>
      obtain ⟨w, hseen, rfl⟩ := seen_of_fails reads_count? hfails
      refine ⟨_, [], rfl, ?_⟩
      rw [hseen]
      exact .done _

theorem course_load_iff (xs : Traffic) (report : Report) (r' : Redis) :
    (r.perform .load).Course xs (report, r') ↔
      ∃ digest', r' = { r with digest := digest' } ∧
        Job.load.Sends r.timeout r.digest xs report digest' := by
  have hload : r.perform .load = .ask .loadScript fun d => .done (
      match d.reply.digest with
      | .ok digest => (.loaded, { r with digest })
      | .error f => (.notLoaded f.message, r)) := by
    refine congrArg (Dialogue.ask _) (funext fun d => ?_)
    show (Dialogue.done (d.reply.digest.map _) >>= _) = _
    cases d.reply.digest <;> rfl
  rw [hload, course_ask_iff]
  constructor
  · rintro ⟨d, ys, rfl, h⟩
    obtain ⟨rfl, he⟩ := (course_done_iff _ _ _).1 h
    cases hread : d.reply.digest with
    | ok digest =>
      rw [hread] at he
      obtain ⟨rfl, rfl⟩ := Prod.mk.inj he
      exact ⟨_, rfl, .loaded ((reads_digest.ok_iff _ _).1 hread)⟩
    | error f =>
      rw [hread] at he
      obtain ⟨rfl, rfl⟩ := Prod.mk.inj he
      exact ⟨_, rfl, .notLoaded ((reads_digest.error_iff _ _).1 ⟨f, hread, rfl⟩)⟩
  · rintro ⟨digest', rfl, h⟩
    cases h with
    | loaded hsays =>
      refine ⟨_, [], rfl, ?_⟩
      rw [(reads_digest.ok_iff _ _).2 hsays]
      exact .done _
    | notLoaded hlacks =>
      obtain ⟨f, hread, rfl⟩ := (reads_digest.error_iff _ _).2 hlacks
      refine ⟨_, [], rfl, ?_⟩
      rw [hread]
      exact .done _

theorem course_call_iff (c : StoreCall) (xs : Traffic) (report : Report) (r' : Redis) :
    (r.perform (.call c)).Course xs (report, r') ↔
      ∃ a, report = .answered a ∧ (r.answer c).Course xs (a, r') := by
  show ((r.answer c) >>= fun p => .done (.answered p.1, p.2)).Course xs (report, r') ↔ _
  rw [course_bind_done_iff]
  constructor
  · rintro ⟨⟨a, r''⟩, he, h⟩
    obtain ⟨rfl, rfl⟩ := Prod.mk.inj he
    exact ⟨a, rfl, h⟩
  · rintro ⟨a, rfl, h⟩
    exact ⟨(a, r'), rfl, h⟩

/-- A read leaves the client as it was. -/
theorem course_answer_read_iff (xs : Traffic) (a : StoreAnswer) (r' : Redis) :
    (r.answer (.read key)).Course xs (a, r') ↔ (r.read key).Course xs a ∧ r' = r := by
  show ((r.read key) >>= fun a => .done (a, r)).Course xs (a, r') ↔ _
  rw [course_bind_done_iff]
  constructor
  · rintro ⟨a', he, h⟩
    obtain ⟨rfl, rfl⟩ := Prod.mk.inj he
    exact ⟨h, rfl⟩
  · rintro ⟨h, rfl⟩
    exact ⟨a, rfl, h⟩

/-- The client does a job in one of the ways it can go, and keeps its timeout. -/
theorem course_perform_iff (job : Job) (xs : Traffic) (report : Report) (r' : Redis) :
    (r.perform job).Course xs (report, r') ↔
      ∃ digest', r' = { r with digest := digest' } ∧
        job.Sends r.timeout r.digest xs report digest' := by
  cases job with
  | load => exact course_load_iff xs report r'
  | call c =>
    rw [course_call_iff]
    cases c with
    | increment key ttl =>
      constructor
      · rintro ⟨a, rfl, h⟩
        exact (course_increment_iff xs a r').1 h
      · rintro ⟨digest', rfl, h⟩
        have hreport : ∃ a, report = .answered a := by cases h <;> exact ⟨_, rfl⟩
        obtain ⟨a, rfl⟩ := hreport
        exact ⟨a, rfl, (course_increment_iff xs a _).2 ⟨digest', rfl, h⟩⟩
    | read key =>
      constructor
      · rintro ⟨a, rfl, h⟩
        obtain ⟨hcourse, rfl⟩ := (course_answer_read_iff xs a r').1 h
        exact ⟨_, rfl, (course_read_iff xs a).1 hcourse⟩
      · rintro ⟨digest', rfl, h⟩
        have hreport : ∃ a, report = .answered a ∧ digest' = r.digest := by
          cases h <;> exact ⟨_, rfl, rfl⟩
        obtain ⟨a, rfl, rfl⟩ := hreport
        exact ⟨a, rfl, (course_answer_read_iff xs a r).2 ⟨(course_read_iff xs a).2 h, rfl⟩⟩

/-- Whatever the server delivers, a job goes in one of the ways it can. -/
theorem hold_perform_iff {σ : Type} (r : Redis) (job : Job)
    (answer : σ → Command → Delivery × σ) (s t : σ) (xs : Traffic) (report : Report)
    (r' : Redis) :
    hold answer s (r.perform job) = ⟨(report, r'), xs, t⟩ ↔
      Answered answer s xs t ∧ ∃ digest', r' = { r with digest := digest' } ∧
        job.Sends r.timeout r.digest xs report digest' := by
  rw [hold_eq_iff, course_perform_iff]

end Redis

/-! ## What every increment keeps -/

/-- Whether the command calls the script. -/
def Command.callsScript : Command → Bool
  | .callScript .. => true
  | _ => false

@[simp] theorem Command.callsScript_count (digest key : String) (ttl : Duration) :
    (Job.count digest key ttl).callsScript = true := rfl

@[simp] theorem Command.callsScript_loadScript : Command.loadScript.callsScript = false := rfl

/-- What the last call of the script was delivered. -/
def Traffic.lastCall (xs : Traffic) : Option Delivery :=
  (xs.filter (·.1.callsScript)).getLast?.map Prod.snd

/-- The traffic of one increment, and its answer. -/
structure CountsOnce (timeout : Duration) (xs : Traffic) (a : StoreAnswer) : Prop where
  short : xs.length ≤ 3
  /-- Of two calls of the script, the first has found that the server misses it. -/
  once : xs.Pairwise fun e e' => e.1.callsScript = true → e'.1.callsScript = true →
    e.2.MissesScript timeout
  ok_iff : ∀ n, a = .ok n ↔ ∃ d, xs.lastCall = some d ∧ d.Gives timeout .number n
  /-- It fails as its last command failed. -/
  failure : ∀ e, a = .error e → e ≠ .notFound ∧ ∃ c d, xs.getLast? = some (c, d) ∧
    (c = .loadScript ∧ d.Fails timeout .text e ∨
      c.callsScript = true ∧ d.Fails timeout .number e)

section
variable {timeout : Duration}

/-- A count was brought by the last call of the script, and that is the answer. -/
theorem Traffic.ok_iff_of_gives {xs : Traffic} {d : Delivery} {n : Int64}
    (hlast : xs.lastCall = some d) (hn : d.Gives timeout .number n) (m : Int64) :
    (Except.ok n : StoreAnswer) = .ok m ↔
      ∃ d, xs.lastCall = some d ∧ d.Gives timeout .number m := by
  rw [hlast]
  constructor
  · rintro ⟨⟩
    exact ⟨d, rfl, hn⟩
  · rintro ⟨_, ⟨⟩, hm⟩
    rw [hn.inj reads_count hm]

/-- No count was brought by the last call of the script, and none is answered. -/
theorem Traffic.ok_iff_of_not_gives {xs : Traffic} {d : Delivery} {e : StoreFault}
    (hlast : xs.lastCall = some d) (hnot : ∀ n, ¬ d.Gives timeout .number n) (m : Int64) :
    (Except.error e : StoreAnswer) = .ok m ↔
      ∃ d, xs.lastCall = some d ∧ d.Gives timeout .number m := by
  rw [hlast]
  constructor
  · rintro ⟨⟩
  · rintro ⟨_, ⟨⟩, hm⟩
    exact absurd hm (hnot m)

variable {digest digest' key : String} {ttl : Duration}

theorem Traffic.lastCall_once (d : Delivery) :
    Traffic.lastCall [(Job.count digest key ttl, d)] = some d := by
  simp [Traffic.lastCall]

theorem Traffic.lastCall_notReloaded (d d' : Delivery) :
    Traffic.lastCall [(Job.count digest key ttl, d), (.loadScript, d')] = some d := by
  simp [Traffic.lastCall]

theorem Traffic.lastCall_twice (d d' d'' : Delivery) :
    Traffic.lastCall [(Job.count digest key ttl, d), (.loadScript, d'),
      (Job.count digest' key ttl, d'')] = some d'' := by
  simp [Traffic.lastCall]

/-- In each of the ways that an increment can go, its count is brought once at most. -/
theorem Job.Sends.countsOnce {xs : Traffic} {report : Report}
    (h : (Job.call (.increment key ttl)).Sends timeout digest xs report digest') :
    ∃ a, report = .answered a ∧ CountsOnce timeout xs a := by
  cases h with
  | counted hgives =>
    exact ⟨_, rfl, by simp, List.pairwise_singleton _ _,
      Traffic.ok_iff_of_gives (Traffic.lastCall_once _) hgives, nofun⟩
  | failed hfails hmiss =>
    refine ⟨_, rfl, by simp, List.pairwise_singleton _ _,
      Traffic.ok_iff_of_not_gives (Traffic.lastCall_once _) (hfails.not_gives reads_count), ?_⟩
    rintro _ ⟨⟩
    exact ⟨hfails.ne_notFound, _, _, rfl, Or.inr ⟨rfl, hfails⟩⟩
  | notReloaded hmiss hfails =>
    refine ⟨_, rfl, by simp, by simp,
      Traffic.ok_iff_of_not_gives (Traffic.lastCall_notReloaded _ _) hmiss.not_gives, ?_⟩
    rintro _ ⟨⟩
    exact ⟨hfails.ne_notFound, _, _, rfl, Or.inl ⟨rfl, hfails⟩⟩
  | recounted hmiss _ hgives =>
    exact ⟨_, rfl, by simp, by simp [hmiss],
      Traffic.ok_iff_of_gives (Traffic.lastCall_twice _ _ _) hgives, nofun⟩
  | failedAgain hmiss _ hfails =>
    refine ⟨_, rfl, by simp, by simp [hmiss],
      Traffic.ok_iff_of_not_gives (Traffic.lastCall_twice _ _ _) (hfails.not_gives reads_count), ?_⟩
    rintro _ ⟨⟩
    exact ⟨hfails.ne_notFound, _, _, rfl, Or.inr ⟨rfl, hfails⟩⟩

end

/-! ## Runs -/

/-- A job as it went. -/
structure JobRecord where
  job : Job
  traffic : Traffic
  report : Report
  deriving DecidableEq

/-- Jobs done one after the other. -/
def Redis.work {σ : Type} (answer : σ → Command → Delivery × σ) :
    Redis → σ → List Job → List JobRecord
  | _, _, [] => []
  | r, s, job :: rest =>
    let record := hold answer s (r.perform job)
    ⟨job, record.exchanges, record.result.1⟩ :: work answer record.result.2 record.state rest

/-- The digest that a command brought, if it was a load and succeeded. Only within an
increment is a load waited for no longer than the timeout. -/
def Job.digest? (timeout : Duration) : Job → Command × Delivery → Option String
  | .load, (.loadScript, d) => d.reply.text?
  | .call _, (.loadScript, d) => if d.IsLate timeout then none else d.reply.text?
  | _, _ => none

/-- The digests brought in a run, in order. -/
def digests (timeout : Duration) (log : List JobRecord) : List String :=
  log.flatMap fun x => x.traffic.filterMap (x.job.digest? timeout)

/-- The digest of the last load that succeeded, or the one from the start. -/
def remembered (timeout : Duration) (start : String) (log : List JobRecord) : String :=
  (digests timeout log).getLast?.getD start

section
variable {timeout : Duration} {start : String}

theorem remembered_append (front back : List JobRecord) :
    remembered timeout start (front ++ back) =
      remembered timeout (remembered timeout start front) back := by
  have happend : digests timeout (front ++ back) = digests timeout front ++ digests timeout back :=
    List.flatMap_append
  unfold remembered
  rw [happend, List.getLast?_append]
  cases (digests timeout back).getLast? with
  | none => rw [Option.none_or]; rfl
  | some digest => rfl

namespace Job

variable {c : StoreCall} {d : Delivery}

@[simp] theorem digest?_count (digest key : String) (ttl : Duration) :
    (Job.call c).digest? timeout (Job.count digest key ttl, d) = none := by
  simp only [count, digest?]

@[simp] theorem digest?_get (key : String) :
    (Job.call c).digest? timeout (.get key, d) = none := rfl

theorem digest?_of_gives {digest : String} (h : d.Gives timeout .text digest) :
    (Job.call c).digest? timeout (.loadScript, d) = some digest := by
  rw [Job.digest?, if_neg h.1]
  exact h.2

theorem digest?_of_fails {e : StoreFault} (h : d.Fails timeout .text e) :
    (Job.call c).digest? timeout (.loadScript, d) = none := by
  rw [Job.digest?]
  cases h with
  | late hlate => exact if_pos hlate
  | lacking hlate hlacks =>
    rw [if_neg hlate]
    exact Reply.text?_of_lacks hlacks

/-- A job leaves the digest that it brought, or else the one from before. -/
theorem Sends.remembered_eq {job : Job} {xs : Traffic} {report : Report} {digest' : String}
    (h : job.Sends timeout start xs report digest') :
    remembered timeout start [⟨job, xs, report⟩] = digest' := by
  cases h with
  | counted _ => simp [remembered, digests]
  | failed _ _ => simp [remembered, digests]
  | notReloaded _ hfailed => simp [remembered, digests, digest?_of_fails hfailed]
  | recounted _ hloaded _ | failedAgain _ hloaded _ =>
    simp [remembered, digests, digest?_of_gives hloaded]
  | read _ => simp [remembered, digests]
  | absent _ => simp [remembered, digests]
  | unread _ => simp [remembered, digests]
  | loaded hsays =>
    have hdigest : Reply.text? _ = some digest' := hsays
    simp [remembered, digests, digest?, hdigest]
  | notLoaded hlacks => simp [remembered, digests, digest?, Reply.text?_of_lacks hlacks]

end Job

end

section
variable {σ : Type} (answer : σ → Command → Delivery × σ)

theorem map_job_work (r : Redis) (s : σ) (jobs : List Job) :
    (r.work answer s jobs).map (·.job) = jobs := by
  induction jobs generalizing r s with
  | nil => rfl
  | cons job rest ih => exact congrArg (job :: ·) (ih _ _)

/-- The first job of a run. -/
theorem work_cons (r : Redis) (s : σ) (job : Job) (rest : List Job) :
    ∃ xs report digest' t, r.work answer s (job :: rest) =
        ⟨job, xs, report⟩ :: Redis.work answer { r with digest := digest' } t rest ∧
      Answered answer s xs t ∧ job.Sends r.timeout r.digest xs report digest' := by
  obtain ⟨hanswered, digest', hr, hsends⟩ :=
    (r.hold_perform_iff job answer s _ _ _ _).1 (Eq.refl (hold answer s (r.perform job)))
  refine ⟨_, _, digest', _, ?_, hanswered, hsends⟩
  rw [Redis.work, hr]

/-- What was delivered is what the server answered, command by command. -/
theorem answered_work (r : Redis) (s : σ) (jobs : List Job) :
    ∃ t, Answered answer s ((r.work answer s jobs).flatMap (·.traffic)) t := by
  induction jobs generalizing r s with
  | nil => exact ⟨s, .nil s⟩
  | cons job rest ih =>
    obtain ⟨xs, report, digest', t, hwork, hanswered, -⟩ := work_cons answer r s job rest
    obtain ⟨u, hu⟩ := ih { r with digest := digest' } t
    rw [hwork, List.flatMap_cons]
    exact ⟨u, answered_append hanswered hu⟩

/-- What a run keeps: each job begins with the digest that is remembered by then. -/
theorem sends_of_mem_work (r : Redis) (s : σ) (jobs : List Job) {before after : List JobRecord}
    {x : JobRecord} (h : r.work answer s jobs = before ++ x :: after) :
    x.job.Sends r.timeout (remembered r.timeout r.digest before) x.traffic x.report
      (remembered r.timeout r.digest (before ++ [x])) := by
  induction jobs generalizing r s before with
  | nil => cases before <;> cases h
  | cons job rest ih =>
    obtain ⟨xs, report, digest', t, hwork, -, hsends⟩ := work_cons answer r s job rest
    rw [hwork] at h
    cases before with
    | nil =>
      obtain ⟨rfl, -⟩ := List.cons.inj h
      rw [List.nil_append, hsends.remembered_eq]
      exact hsends
    | cons y before =>
      obtain ⟨rfl, hrest⟩ := List.cons.inj h
      have hlater := ih { r with digest := digest' } t hrest
      have hcons : ∀ log, remembered r.timeout r.digest (⟨job, xs, report⟩ :: log) =
          remembered r.timeout digest' log := fun log => by
        rw [← List.singleton_append, remembered_append, hsends.remembered_eq]
      rw [List.cons_append, hcons, hcons]
      exact hlater

end

/-- **An increment is counted once at most.** Let a client of the server do any jobs one after
the other, whatever the server delivers and however late. Each job sends the commands of one
of the ways it can go, and the digest it begins with is that of the last load that succeeded,
or the one from the start if none did. An increment sends three commands at most; only a call
that finds the server without the script is followed by another. It gives the count that its
last call of the script brought, and if it fails, it fails as its last command did. -/
theorem work_by_course {σ : Type} (answer : σ → Command → Delivery × σ) (s : σ) (r : Redis)
    (jobs : List Job) :
    (r.work answer s jobs).map (·.job) = jobs ∧
    (∃ t, Answered answer s ((r.work answer s jobs).flatMap (·.traffic)) t) ∧
    ∀ before x after, r.work answer s jobs = before ++ x :: after →
      x.job.Sends r.timeout (remembered r.timeout r.digest before) x.traffic x.report
        (remembered r.timeout r.digest (before ++ [x])) ∧
      ∀ key ttl, x.job = .call (.increment key ttl) →
        ∃ a, x.report = .answered a ∧ CountsOnce r.timeout x.traffic a := by
  refine ⟨map_job_work answer r s jobs, answered_work answer r s jobs, fun before x after h => ?_⟩
  have hsends := sends_of_mem_work answer r s jobs h
  refine ⟨hsends, fun key ttl hjob => ?_⟩
  rw [hjob] at hsends
  exact hsends.countsOnce

/-! ## A server that was started anew -/

/-- The server has lost the script, gives the digest of a load, and counts. Later it has
forgotten the key, spells a count, and sends a text that is none; at last it does not reply in
time. -/
def sampleDeliveries : List Delivery :=
  [⟨.error "NOSCRIPT No matching script. Please use EVAL.", 0⟩, ⟨.text "e0c4", 0⟩, ⟨.int 7, 0⟩,
   ⟨.nil, 0⟩, ⟨.text "+041", 0⟩, ⟨.text "many", 0⟩, ⟨.int 2, 300⟩]

def sampleJobs : List Job :=
  [.call (.increment "login" ⟨0, ⟨1500, by decide⟩⟩), .call (.read "login"),
   .call (.read "login"), .call (.increment "login" (.ofSecs 5)),
   .call (.increment "login" (.ofSecs 5))]

/-- The increment that loads the script anew. -/
def sampleReload : JobRecord where
  job := .call (.increment "login" ⟨0, ⟨1500, by decide⟩⟩)
  traffic :=
    [(.callScript "" "login" 1, ⟨.error "NOSCRIPT No matching script. Please use EVAL.", 0⟩),
     (.loadScript, ⟨.text "e0c4", 0⟩), (.callScript "e0c4" "login" 1, ⟨.int 7, 0⟩)]
  report := .answered (.ok 7)

def sampleRead : JobRecord where
  job := .call (.read "login")
  traffic := [(.get "login", ⟨.nil, 0⟩)]
  report := .answered (.error .notFound)

def sampleSpelled : JobRecord where
  job := .call (.read "login")
  traffic := [(.get "login", ⟨.text "+041", 0⟩)]
  report := .answered (.ok 41)

/-- The increment with the digest that the first one brought, where no number comes back. -/
def sampleGarbled : JobRecord where
  job := .call (.increment "login" (.ofSecs 5))
  traffic := [(.callScript "e0c4" "login" 5000, ⟨.text "many", 0⟩)]
  report := .answered (.error (.unavailable "Parse Error: Invalid integer string."))

/-- The increment that is not answered in time. -/
def sampleLate : JobRecord where
  job := .call (.increment "login" (.ofSecs 5))
  traffic := [(.callScript "e0c4" "login" 5000, ⟨.int 2, 300⟩)]
  report := .answered (.error (.timeout (.ofMillis 250)))

def sampleLog : List JobRecord :=
  [sampleReload, sampleRead, sampleSpelled, sampleGarbled, sampleLate]

theorem work_sampleJobs :
    Redis.work Rehearsal.deliver ⟨"", .ofMillis 250⟩ sampleDeliveries sampleJobs = sampleLog := by
  decide +kernel

theorem remembered_sampleLog : ∀ n, n < 5 →
    remembered (.ofMillis 250) "" (sampleLog.take (n + 1)) = "e0c4" := by
  decide +kernel

theorem sampleJobs_by_course :
    sampleReload.job.Sends (.ofMillis 250) "" sampleReload.traffic sampleReload.report "e0c4" ∧
    CountsOnce (.ofMillis 250) sampleReload.traffic (.ok 7) ∧
    sampleSpelled.job.Sends (.ofMillis 250) "e0c4" sampleSpelled.traffic sampleSpelled.report
      "e0c4" ∧
    CountsOnce (.ofMillis 250) sampleGarbled.traffic
      (.error (.unavailable "Parse Error: Invalid integer string.")) ∧
    sampleLate.job.Sends (.ofMillis 250) "e0c4" sampleLate.traffic sampleLate.report "e0c4" ∧
    CountsOnce (.ofMillis 250) sampleLate.traffic (.error (.timeout (.ofMillis 250))) := by
  have hrun :=
    (work_by_course Rehearsal.deliver sampleDeliveries ⟨"", .ofMillis 250⟩ sampleJobs).2.2
  obtain ⟨hreload, hfirst⟩ := hrun [] sampleReload (sampleLog.drop 1) work_sampleJobs
  obtain ⟨hspelled, -⟩ := hrun (sampleLog.take 2) sampleSpelled (sampleLog.drop 3) work_sampleJobs
  obtain ⟨-, hgarbled⟩ := hrun (sampleLog.take 3) sampleGarbled (sampleLog.drop 4) work_sampleJobs
  obtain ⟨hlate, hlast⟩ := hrun (sampleLog.take 4) sampleLate [] work_sampleJobs
  obtain ⟨a, ha, hcounts⟩ := hfirst "login" ⟨0, ⟨1500, by decide⟩⟩ rfl
  obtain ⟨b, hb, hcounts'⟩ := hgarbled "login" (.ofSecs 5) rfl
  obtain ⟨c, hc, hcounts''⟩ := hlast "login" (.ofSecs 5) rfl
  cases ha
  cases hb
  cases hc
  have hlog := remembered_sampleLog
  refine ⟨?_, hcounts, ?_, hcounts', ?_, hcounts''⟩
  · rwa [show remembered (.ofMillis 250) "" ([] ++ [sampleReload]) = "e0c4" from hlog 0 (by decide)]
      at hreload
  · rwa [hlog 1 (by decide), show remembered (.ofMillis 250) ""
      (sampleLog.take 2 ++ [sampleSpelled]) = "e0c4" from hlog 2 (by decide)] at hspelled
  · rwa [hlog 3 (by decide), show remembered (.ofMillis 250) ""
      (sampleLog.take 4 ++ [sampleLate]) = "e0c4" from hlog 4 (by decide)] at hlate

end Turnstile

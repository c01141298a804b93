import Turnstile.Guard
import Turnstile.Proofs.Server.Records
import Turnstile.Proofs.Text.Numerals
import Turnstile.Proofs.Text.Separators

/-!
# What a client is told

The body of a response is an object in which a client finds the code, the message and the
figures of a denial. Some fields are there only for some denials; the notice of a denial spells
out what each kind has. All of a denial can be read from its response, the positions of two
ranks from the words of the message, so no two denials are answered in the same way.

    Notice.ofJson? d.body = some d.notice                       (ofJson?_body)
    ("retry-after", v) among the headers ↔ v is the time to wait     (retryAfter_mem_headers_iff)
    d.notice = d'.notice → d = d'                                (notice_inj)
    each response is read as its denial                          (responses_are_faithful)
-/

namespace Turnstile

open Turnstile.Text

/-! ## Notices -/

/-- The figures of a denial by a quota. -/
inductive Figures where
  | exceeded (resource unit : String) (used limit wouldBe : UInt64)
  | rate (requests : UInt32) (windowSecs : UInt64) (slowmodeSecs : Option UInt64)
  | file (bytes megabytes limitMegabytes : UInt64)
  deriving DecidableEq

/-- What a client reads in the body of a response. -/
structure Notice where
  code : String
  message : String
  permissions : Option Mask := none
  figures : Option Figures := none
  retryAfter : Option UInt64 := none
  upgrade : Option String := none
  deriving DecidableEq

namespace Json

/-- The value of a field, read by `read`. -/
def required? {α : Type} (j : Json) (name : String) (read : Json → Option α) : Option α :=
  (j.field? name).bind read

/-- The value of a field that may be missing. If it is there, it has to be readable. -/
def optional? {α : Type} (j : Json) (name : String) (read : Json → Option α) :
    Option (Option α) :=
  match j.field? name with
  | none => some none
  | some value => (read value).map some

end Json

namespace Figures

/-- The figures are told apart by their fields. -/
def ofJson? (j : Json) : Option Figures :=
  if (j.field? "resource").isSome then do
    some (.exceeded (← j.required? "resource" Json.str?) (← j.required? "unit" Json.str?)
      (← j.required? "used" Json.uint64?) (← j.required? "limit" Json.uint64?)
      (← j.required? "would_be" Json.uint64?))
  else if (j.field? "size_bytes").isSome then do
    some (.file (← j.required? "size_bytes" Json.uint64?) (← j.required? "size_mb" Json.uint64?)
      (← j.required? "limit_mb" Json.uint64?))
  else do
    some (.rate (← j.required? "limit" Json.uint32?) (← j.required? "window_secs" Json.uint64?)
      (← j.optional? "slowmode_secs" Json.uint64?))

end Figures

namespace Notice

def ofJson? (j : Json) : Option Notice := do
  let code ← j.required? "error" Json.str?
  let message ← j.required? "message" Json.str?
  let permissions ← j.optional? "permissions" Mask.ofJson?
  let figures ← j.optional? "details" Figures.ofJson?
  let retryAfter ← j.optional? "retry_after" Json.uint64?
  let upgrade ← j.optional? "upgrade_action" Json.str?
  some { code, message, permissions, figures, retryAfter, upgrade }

/-- The fields of a body: those that are not always there stand for what the notice has. -/
def keys (n : Notice) : List String :=
  ["error", "message"] ++ (n.permissions.map fun _ => "permissions").toList ++
    (n.figures.map fun _ => "details").toList ++
    (n.retryAfter.map fun _ => "retry_after").toList ++
    (n.upgrade.map fun _ => "upgrade_action").toList

end Notice

/-! ## Denials for want of permission -/

namespace PermissionDenial

def notice : PermissionDenial → Notice
  | .missing m =>
    { code := "missing_permission"
      message := "Missing permission: " ++ m.text
      permissions := some m }
  | .rank actor target =>
    { code := "role_hierarchy"
      message := "Cannot act on position " ++ toString target.toInt ++ " (your position: " ++
        toString actor.toInt ++ ")" }
  | .escalation m =>
    { code := "cannot_escalate"
      message := "Cannot grant permissions you don't have: " ++ m.text
      permissions := some m }
  | .targetIsOwner =>
    { code := "cannot_moderate_owner"
      message := "Cannot moderate server owner" }
  | .notAMember =>
    { code := "not_server_member"
      message := "User is not a member of this server" }

theorem code_eq (d : PermissionDenial) : d.code = d.notice.code := by cases d <;> rfl

theorem permissions?_eq (d : PermissionDenial) : d.permissions? = d.notice.permissions := by
  cases d <;> rfl

theorem message_eq (d : PermissionDenial) : d.message = d.notice.message := by
  cases d with
  | rank actor target =>
    show "Cannot act on position " ++ Decimal.ofInt target.toInt ++ " (your position: " ++
      Decimal.ofInt actor.toInt ++ ")" = _
    rw [Decimal.ofInt_eq_toString, Decimal.ofInt_eq_toString]
    rfl
  | _ => rfl

theorem notice_eq (d : PermissionDenial) : d.notice =
    { code := d.code, message := d.message, permissions := d.permissions? } := by
  rw [code_eq, message_eq, permissions?_eq]
  cases d <;> rfl

theorem plain_body (d : PermissionDenial) : d.body.Plain := by
  refine .obj fun f hf => ?_
  simp only [List.mem_append, Option.mem_toList, Option.map_eq_some_iff] at hf
  rcases hf with hf | ⟨m, -, rfl⟩
  · simp only [List.mem_cons, List.not_mem_nil, or_false] at hf
    rcases hf with rfl | rfl
    · exact .str _
    · exact .str _
  · exact .int _

theorem names_body (d : PermissionDenial) : d.body.names = d.notice.keys := by
  rw [body, Json.names, Notice.keys, notice_eq]
  cases d.permissions? <;> rfl

theorem ofJson?_body (d : PermissionDenial) : Notice.ofJson? d.body = some d.notice := by
  rw [body, notice_eq]
  cases d.permissions? <;>
    simp [Notice.ofJson?, Json.required?, Json.optional?, Json.field?, List.lookup_cons,
      Json.str?, ofJson?_mask]

end PermissionDenial

/-! ## Denials for want of budget -/

/-- The words for a resource: its name and its unit's in a body, what it is called in a message,
and what is put after an amount of it there. -/
structure Wording where
  name : String
  unit : String
  title : String
  suffix : String

def Resource.wording : Resource → Wording
  | .userStorage => ⟨"user_storage", "megabytes", "Storage", " MB"⟩
  | .serverStorage => ⟨"server_storage", "megabytes", "Server storage", " MB"⟩
  | .messageLength => ⟨"message_length", "characters", "Message length", " characters"⟩
  | .serversOwned => ⟨"servers_owned", "count", "Owned servers", ""⟩
  | .serversJoined => ⟨"servers_joined", "count", "Joined servers", ""⟩
  | .channelsPerServer => ⟨"channels_per_server", "count", "Channels", ""⟩
  | .rolesPerServer => ⟨"roles_per_server", "count", "Roles", ""⟩
  | .membersPerServer => ⟨"members_per_server", "count", "Members", ""⟩

namespace Resource

variable (r : Resource)

theorem wording_name : r.wording.name = r.name := by cases r <;> rfl

theorem wording_unit : r.wording.unit = r.unit.name := by cases r <;> rfl

theorem wording_title : r.wording.title = r.description := by cases r <;> rfl

theorem amountText_unit (amount : UInt64) :
    r.unit.amountText amount = toString amount ++ r.wording.suffix := by
  unfold QuotaUnit.amountText
  rw [Decimal.ofNat_eq_toString]
  cases r <;> rfl

variable {r}

/-- No two resources have the same name. -/
theorem wording_name_inj {r' : Resource} (h : r.wording.name = r'.wording.name) : r = r' := by
  rw [wording_name, wording_name] at h
  have hread := congrArg ofName? h
  rw [ofName?_name, ofName?_name] at hread
  exact Option.some.inj hread

end Resource

/-- The megabytes of a file, where a part counts as a whole. -/
def fileMegabytes (bytes : UInt64) : UInt64 := .ofNat ((bytes.toNat + 1048575) / 1048576)

theorem megabytesOf_eq (bytes : UInt64) : megabytesOf bytes = fileMegabytes bytes := by
  have hbytes := bytes.toNat_lt
  rw [← UInt64.toNat_inj, toNat_megabytesOf, fileMegabytes, UInt64.toNat_ofNat',
    Nat.mod_eq_of_lt (by omega)]

namespace QuotaDenial

def notice : QuotaDenial → Notice
  | .exceeded resource used limit wouldBe upgrade =>
    let w := resource.wording
    { code := "quota_exceeded"
      message := w.title ++ " limit reached: " ++ (toString used ++ w.suffix) ++ " used of " ++
        (toString limit ++ w.suffix) ++ ", this action would bring it to " ++
        (toString wouldBe ++ w.suffix)
      figures := some (.exceeded w.name w.unit used limit wouldBe)
      upgrade }
  | .tooMany requests windowSecs retryAfter =>
    { code := "rate_limited"
      message := "Too many requests: limit is " ++ toString requests ++ " per " ++
        toString windowSecs ++ " seconds. Wait " ++ toString retryAfter ++ " seconds."
      figures := some (.rate requests windowSecs none)
      retryAfter := some retryAfter }
  | .slowmode secs retryAfter =>
    { code := "rate_limited"
      message := "Slowmode is enabled: one message every " ++ toString secs ++ " seconds. Wait " ++
        toString retryAfter ++ " seconds."
      figures := some (.rate 1 secs (some secs))
      retryAfter := some retryAfter }
  | .fileTooLarge bytes limit upgrade =>
    { code := "file_too_large"
      message := "File is " ++ toString (fileMegabytes bytes) ++ " MB, the maximum is " ++
        toString limit ++ " MB"
      figures := some (.file bytes (fileMegabytes bytes) limit)
      upgrade }

theorem number_eq (n : UInt64) : number n = toString n := Decimal.ofNat_eq_toString n.toNat

theorem name_kind_eq (d : QuotaDenial) : d.kind.name = d.notice.code := by cases d <;> rfl

theorem retryAfter?_eq (d : QuotaDenial) : d.retryAfter? = d.notice.retryAfter := by
  cases d <;> rfl

theorem upgrade?_eq (d : QuotaDenial) : d.upgrade? = d.notice.upgrade := by cases d <;> rfl

theorem message_eq (d : QuotaDenial) : d.message = d.notice.message := by
  cases d with
  | exceeded resource used limit wouldBe upgrade =>
    show resource.description ++ " limit reached: " ++ resource.unit.amountText used ++
      " used of " ++ resource.unit.amountText limit ++ ", this action would bring it to " ++
      resource.unit.amountText wouldBe = _
    rw [← resource.wording_title, resource.amountText_unit, resource.amountText_unit,
      resource.amountText_unit]
    rfl
  | tooMany requests windowSecs retryAfter =>
    show "Too many requests: limit is " ++ Decimal.ofNat requests.toNat ++ " per " ++
      number windowSecs ++ " seconds. Wait " ++ number retryAfter ++ " seconds." = _
    rw [number_eq, number_eq, Decimal.ofNat_eq_toString]
    rfl
  | slowmode secs retryAfter =>
    show "Slowmode is enabled: one message every " ++ number secs ++ " seconds. Wait " ++
      number retryAfter ++ " seconds." = _
    rw [number_eq, number_eq]
    rfl
  | fileTooLarge bytes limit upgrade =>
    show "File is " ++ number (megabytesOf bytes) ++ " MB, the maximum is " ++ number limit ++
      " MB" = _
    rw [number_eq, number_eq, megabytesOf_eq]
    rfl

theorem notice_eq (d : QuotaDenial) : d.notice =
    { code := d.kind.name, message := d.message, figures := d.notice.figures,
      retryAfter := d.retryAfter?, upgrade := d.upgrade? } := by
  rw [name_kind_eq, message_eq, retryAfter?_eq, upgrade?_eq]
  cases d <;> rfl

theorem plain_details (d : QuotaDenial) : d.details.Plain := by
  cases d <;> exact .obj (by simp [Json.ofUInt64, Json.ofUInt32, Json.Plain.str, Json.Plain.int])

theorem plain_body (d : QuotaDenial) : d.body.Plain := by
  refine .obj fun f hf => ?_
  simp only [List.mem_append, Option.mem_toList, Option.map_eq_some_iff] at hf
  rcases hf with (hf | ⟨n, -, rfl⟩) | ⟨s, -, rfl⟩
  · simp only [List.mem_cons, List.not_mem_nil, or_false] at hf
    rcases hf with rfl | rfl | rfl
    · exact .str _
    · exact .str _
    · exact d.plain_details
  · exact .int _
  · exact .str _

theorem names_body (d : QuotaDenial) : d.body.names = d.notice.keys := by
  cases d with
  | exceeded resource used limit wouldBe upgrade => cases upgrade <;> rfl
  | fileTooLarge bytes limit upgrade => cases upgrade <;> rfl
  | tooMany => rfl
  | slowmode => rfl

theorem ofJson?_details (d : QuotaDenial) :
    (Figures.ofJson? d.details).map some = some d.notice.figures := by
  cases d with
  | exceeded resource used limit wouldBe upgrade =>
    show _ = some (some (Figures.exceeded resource.wording.name resource.wording.unit _ _ _))
    rw [resource.wording_name, resource.wording_unit]
    simp [Figures.ofJson?, details, Json.required?, Json.field?, List.lookup_cons, Json.str?,
      uint64?_int, Json.ofUInt64]
  | tooMany requests windowSecs retryAfter =>
    show _ = some (some (Figures.rate requests windowSecs none))
    simp [Figures.ofJson?, details, Json.required?, Json.optional?, Json.field?, List.lookup_cons,
      uint64?_int, uint32?_int, Json.ofUInt64, Json.ofUInt32]
  | slowmode secs retryAfter =>
    have hone : Json.uint32? (.int 1) = some 1 := uint32?_int 1
    show _ = some (some (Figures.rate 1 secs (some secs)))
    simp [Figures.ofJson?, details, Json.required?, Json.optional?, Json.field?, List.lookup_cons,
      uint64?_int, hone, Json.ofUInt64]
  | fileTooLarge bytes limit upgrade =>
    show _ = some (some (Figures.file bytes (fileMegabytes bytes) limit))
    rw [← megabytesOf_eq]
    simp [Figures.ofJson?, details, Json.required?, Json.field?, List.lookup_cons,
      uint64?_int, Json.ofUInt64]

theorem ofJson?_body (d : QuotaDenial) : Notice.ofJson? d.body = some d.notice := by
  rw [body, notice_eq]
  cases d.retryAfter? <;> cases d.upgrade? <;>
    simp [Notice.ofJson?, Json.required?, Json.optional?, Json.field?, List.lookup_cons,
      Json.str?, ofJson?_details, uint64?_int, Json.ofUInt64]

/-! ### The time to wait -/

theorem status_eq_iff (d : QuotaDenial) :
    d.kind.status = 429 ↔ ∃ n, d.notice.retryAfter = some n := by
  cases d <;> simp [kind, QuotaDenialKind.status, notice]

/-- What is written for a time to wait is read as that time. -/
theorem readUInt64?_toString (n : UInt64) : Decimal.readUInt64? (toString n).toList = some n := by
  rw [← number_eq, Decimal.readUInt64?_eq_some_iff, number, Decimal.ofNat, String.toList_ofList]
  exact .plain ⟨0, rfl⟩

/-- A hint takes the place of the one before, but a rate limit takes none. -/
theorem notice_withUpgrade (d : QuotaDenial) (hint : Option String) :
    (d.withUpgrade hint).notice =
      { d.notice with upgrade := if d.notice.code = "rate_limited" then none else hint } := by
  cases d with
  | exceeded => simp [withUpgrade, notice]
  | tooMany => rfl
  | slowmode => rfl
  | fileTooLarge => simp [withUpgrade, notice]

/-! ### Different denials -/

theorem notice_inj {d d' : QuotaDenial} (h : d.notice = d'.notice) : d = d' := by
  have hfigures := congrArg Notice.figures h
  have hretry := congrArg Notice.retryAfter h
  have hupgrade := congrArg Notice.upgrade h
  cases d with
  | exceeded resource used limit wouldBe upgrade =>
    cases d' with
    | exceeded resource' used' limit' wouldBe' upgrade' =>
      obtain ⟨hname, -, rfl, rfl, rfl⟩ := Figures.exceeded.inj (Option.some.inj hfigures)
      cases Resource.wording_name_inj hname
      cases hupgrade
      rfl
    | _ => cases hfigures
  | tooMany requests windowSecs retryAfter =>
    cases d' with
    | tooMany requests' windowSecs' retryAfter' =>
      cases hfigures
      cases hretry
      rfl
    | _ => cases hfigures
  | slowmode secs retryAfter =>
    cases d' with
    | slowmode secs' retryAfter' =>
      cases hfigures
      cases hretry
      rfl
    | _ => cases hfigures
  | fileTooLarge bytes limit upgrade =>
    cases d' with
    | fileTooLarge bytes' limit' upgrade' =>
      cases hfigures
      cases hupgrade
      rfl
    | _ => cases hfigures

end QuotaDenial

/-! ### Ranks in a message -/

namespace PermissionDenial

theorem toList_message_rank (actor target : Int32) :
    (notice (.rank actor target)).message.toList =
      "Cannot act on position ".toList ++ (Decimal.signedDigits target.toInt ++
        ' ' :: ("(your position: ".toList ++ (Decimal.signedDigits actor.toInt ++ [')']))) := by
  have hblank : " (your position: ".toList = ' ' :: "(your position: ".toList := by decide
  have hclose : ")".toList = [')'] := by decide
  show ("Cannot act on position " ++ toString target.toInt ++ " (your position: " ++
    toString actor.toInt ++ ")").toList = _
  simp only [← Decimal.ofInt_eq_toString, Decimal.ofInt, String.toList_append,
    String.toList_ofList, hblank, hclose, List.append_assoc, List.cons_append]

/-- The first blank after the target's position is where this ends. -/
theorem message_rank_inj {actor target actor' target' : Int32}
    (h : (notice (.rank actor target)).message = (notice (.rank actor' target')).message) :
    actor = actor' ∧ target = target' := by
  have hchars := congrArg String.toList h
  rw [toList_message_rank, toList_message_rank] at hchars
  -- a position has no blank in it
  have hblank : ∀ p : Int32, ' ' ∉ Decimal.signedDigits p.toInt := fun p =>
    Decimal.not_mem_signedDigits rfl (by decide) _
  obtain ⟨htarget, hrest⟩ := first_separator (hblank _) (hblank _)
    (List.append_cancel_left hchars)
  have hactor := List.append_cancel_right (List.append_cancel_left hrest)
  exact ⟨Int32.toInt_inj.1 (Decimal.signedDigits_inj hactor),
    Int32.toInt_inj.1 (Decimal.signedDigits_inj htarget)⟩

theorem notice_inj {d d' : PermissionDenial} (h : d.notice = d'.notice) : d = d' := by
  have hcode := congrArg Notice.code h
  have hmessage := congrArg Notice.message h
  have hpermissions := congrArg Notice.permissions h
  cases d with
  | missing m =>
    cases d' with
    | missing m' => rw [Option.some.inj hpermissions]
    | _ => simp [notice] at hcode
  | rank actor target =>
    cases d' with
    | rank actor' target' =>
      obtain ⟨rfl, rfl⟩ := message_rank_inj hmessage
      rfl
    | _ => simp [notice] at hcode
  | escalation m =>
    cases d' with
    | escalation m' => rw [Option.some.inj hpermissions]
    | _ => simp [notice] at hcode
  | targetIsOwner =>
    cases d' with
    | targetIsOwner => rfl
    | _ => simp [notice] at hcode
  | notAMember =>
    cases d' with
    | notAMember => rfl
    | _ => simp [notice] at hcode

end PermissionDenial

/-! ## Responses -/

theorem Notice.nodup_keys (n : Notice) : n.keys.Nodup := by
  obtain ⟨code, message, permissions, figures, retryAfter, upgrade⟩ := n
  unfold keys
  cases permissions <;> cases figures <;> cases retryAfter <;> cases upgrade <;> simp

namespace AccessDenial

def notice : AccessDenial → Notice
  | .permission d => d.notice
  | .quota d => d.notice

theorem read_body (d : AccessDenial) : ∃ j, Json.ofText? d.response.body = some j ∧
    j.names = d.notice.keys ∧ Notice.ofJson? j = some d.notice := by
  cases d with
  | permission d => exact ⟨d.body, Json.ofText?_text d.plain_body, d.names_body, d.ofJson?_body⟩
  | quota d => exact ⟨d.body, Json.ofText?_text d.plain_body, d.names_body, d.ofJson?_body⟩

theorem retryAfter_mem_headers_iff (d : AccessDenial) (v : String) :
    ("retry-after", v) ∈ d.response.headers ↔
      ∃ n, d.notice.retryAfter = some n ∧ v = toString n := by
  cases d with
  | permission d =>
    simp [response, PermissionDenial.response, Response.ofJson, notice, d.notice_eq]
  | quota d =>
    simp only [response, QuotaDenial.response, Response.ofJson, notice, d.retryAfter?_eq,
      QuotaDenial.number_eq, List.mem_cons, Option.mem_toList, Option.map_eq_some_iff,
      Prod.mk.injEq, true_and]
    constructor
    · rintro (⟨h, -⟩ | ⟨n, hn, rfl⟩)
      · exact absurd h (by decide)
      · exact ⟨n, hn, rfl⟩
    · rintro ⟨n, hn, rfl⟩
      exact .inr ⟨n, hn, rfl⟩

theorem status_eq_iff (d : AccessDenial) :
    d.response.status = 429 ↔ ∃ n, d.notice.retryAfter = some n := by
  cases d with
  | permission d =>
    simp [response, PermissionDenial.response, Response.ofJson, notice, d.notice_eq]
  | quota d => exact d.status_eq_iff

theorem notice_inj {d d' : AccessDenial} (h : d.notice = d'.notice) : d = d' := by
  have hfigures := congrArg (fun n => n.figures.isSome) h
  cases d with
  | permission d =>
    cases d' with
    | permission d' => rw [PermissionDenial.notice_inj h]
    | quota d' => cases d <;> cases d' <;> cases hfigures
  | quota d =>
    cases d' with
    | permission d' => cases d <;> cases d' <;> cases hfigures
    | quota d' => rw [QuotaDenial.notice_inj h]

end AccessDenial

/-- **A client is told all of a denial, and nothing else.** The body is the text of an object
in which no field occurs twice, and in which the code, the message and the figures of the denial
are read, the fields that not all denials have being there just if this one has them. The time
to wait is among the headers just if the status says that requests come too fast, and is then
the number in the body. A denial for coming too fast has no field for a hint, also if it was
given one. And what is answered to two different denials is different. -/
theorem responses_are_faithful :
    (∀ d : AccessDenial, ∃ j, Json.ofText? d.response.body = some j ∧ j.names.Nodup ∧
      j.names = d.notice.keys ∧ Notice.ofJson? j = some d.notice) ∧
    (∀ d : AccessDenial,
      ((∃ v, ("retry-after", v) ∈ d.response.headers) ↔ d.response.status = 429) ∧
      ∀ v, ("retry-after", v) ∈ d.response.headers → ∃ n, d.notice.retryAfter = some n ∧
        v = toString n ∧ Decimal.readUInt64? v.toList = some n) ∧
    (∀ (d : QuotaDenial) (hint : Option String),
      (d.withUpgrade hint).notice =
        { d.notice with upgrade := if d.notice.code = "rate_limited" then none else hint } ∧
      (d.notice.code = "rate_limited" →
        ∃ j, Json.ofText? (AccessDenial.quota (d.withUpgrade hint)).response.body = some j ∧
          "upgrade_action" ∉ j.names)) ∧
    ∀ d d' : AccessDenial, d.response = d'.response → d = d' := by
  refine ⟨fun d => ?_, fun d => ⟨?_, ?_⟩, ?_, ?_⟩
  · obtain ⟨j, htext, hnames, hread⟩ := d.read_body
    exact ⟨j, htext, hnames ▸ d.notice.nodup_keys, hnames, hread⟩
  · rw [d.status_eq_iff]
    simp only [d.retryAfter_mem_headers_iff]
    exact ⟨fun ⟨_, n, hn, _⟩ => ⟨n, hn⟩, fun ⟨n, hn⟩ => ⟨_, n, hn, rfl⟩⟩
  · intro v hv
    obtain ⟨n, hn, rfl⟩ := (d.retryAfter_mem_headers_iff v).1 hv
    exact ⟨n, hn, rfl, QuotaDenial.readUInt64?_toString n⟩
  · refine fun d hint => ⟨d.notice_withUpgrade hint, fun hcode => ?_⟩
    obtain ⟨j, htext, hnames, -⟩ := (AccessDenial.quota (d.withUpgrade hint)).read_body
    refine ⟨j, htext, ?_⟩
    have hnone : (AccessDenial.quota (d.withUpgrade hint)).notice.upgrade = none := by
      rw [AccessDenial.notice, d.notice_withUpgrade hint]
      exact if_pos hcode
    rw [hnames, Notice.keys, hnone]
    simp
  · -- one body is read as both notices
    intro d d' h
    obtain ⟨j, htext, -, hread⟩ := d.read_body
    obtain ⟨j', htext', -, hread'⟩ := d'.read_body
    rw [h, htext'] at htext
    cases htext
    exact AccessDenial.notice_inj (Option.some.inj (hread.symm.trans hread'))

/-! ## Denials of each shape -/

/-- A denial with a hint that has to be escaped. -/
def tooLong : QuotaDenial := .exceeded .messageLength 0 2000 2500 (some "see \"plans\"\n")

def tooSoon : QuotaDenial := .slowmode 30 12

/-- Denials, each with the fields of its body and what is read there. -/
def sampleNotices : List (AccessDenial × List String × Notice) :=
  [(.permission (.missing (.ofList [.banMembers, .manageRoles])),
    ["error", "message", "permissions"],
    { code := "missing_permission"
      message := "Missing permission: Permissions(BAN_MEMBERS | MANAGE_ROLES)"
      permissions := some (.ofBits 0xA000#64) }),
   (.permission (.escalation {.administrator}), ["error", "message", "permissions"],
    { code := "cannot_escalate"
      message := "Cannot grant permissions you don't have: Permissions(ADMINISTRATOR)"
      permissions := some (.ofBits 0x4000000000000000#64) }),
   (.permission (.rank 5 (-3)), ["error", "message"],
    { code := "role_hierarchy"
      message := "Cannot act on position -3 (your position: 5)" }),
   (.quota tooLong, ["error", "message", "details", "upgrade_action"],
    { code := "quota_exceeded"
      message := "Message length limit reached: 0 characters used of 2000 characters, " ++
        "this action would bring it to 2500 characters"
      figures := some (.exceeded "message_length" "characters" 0 2000 2500)
      upgrade := some "see \"plans\"\n" }),
   (.quota (.tooMany 5 60 60), ["error", "message", "details", "retry_after"],
    { code := "rate_limited"
      message := "Too many requests: limit is 5 per 60 seconds. Wait 60 seconds."
      figures := some (.rate 5 60 none)
      retryAfter := some 60 }),
   (.quota tooSoon, ["error", "message", "details", "retry_after"],
    { code := "rate_limited"
      message := "Slowmode is enabled: one message every 30 seconds. Wait 12 seconds."
      figures := some (.rate 1 30 (some 30))
      retryAfter := some 12 }),
   (.quota (.fileTooLarge 1048577 1 none), ["error", "message", "details"],
    { code := "file_too_large"
      message := "File is 2 MB, the maximum is 1 MB"
      figures := some (.file 1048577 2 1) })]

theorem notice_sampleNotices :
    ∀ x ∈ sampleNotices, x.1.notice.keys = x.2.1 ∧ x.1.notice = x.2.2 := by
  decide +kernel

theorem responses_to_messages :
    (∀ x ∈ sampleNotices, ∃ j, Json.ofText? x.1.response.body = some j ∧ j.names = x.2.1 ∧
      Notice.ofJson? j = some x.2.2) ∧
    (AccessDenial.quota tooSoon).response.status = 429 ∧
    ("retry-after", "12") ∈ (AccessDenial.quota tooSoon).response.headers ∧
    (∃ n, tooSoon.notice.retryAfter = some n ∧ "12" = toString n ∧
      Decimal.readUInt64? "12".toList = some n) ∧
    tooSoon.notice.code = "rate_limited" ∧
    (∃ j, Json.ofText? (AccessDenial.quota (tooSoon.withUpgrade (some "plans"))).response.body =
      some j ∧ "upgrade_action" ∉ j.names) ∧
    (AccessDenial.quota tooLong).response ≠ (AccessDenial.quota tooSoon).response := by
  obtain ⟨hbodies, hheaders, hhints, hdifferent⟩ := responses_are_faithful
  have hheader : ("retry-after", "12") ∈ (AccessDenial.quota tooSoon).response.headers := by
    decide +kernel
  refine ⟨fun x hx => ?_, (hheaders _).1.1 ⟨_, hheader⟩, hheader, (hheaders _).2 _ hheader, rfl,
    (hhints _ _).2 rfl, fun h => nomatch hdifferent _ _ h⟩
  obtain ⟨j, htext, -, hnames, hread⟩ := hbodies x.1
  obtain ⟨hkeys, hnotice⟩ := notice_sampleNotices x hx
  exact ⟨j, htext, hnames.trans hkeys, hnotice ▸ hread⟩

end Turnstile

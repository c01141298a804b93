import Turnstile.Json
import Turnstile.Permission

/-!
# Permission masks

A set of permissions as a 64-bit mask. A mask holds bits of named permissions only: a
number from outside is cut down to them, so that a mask stored by a newer version can be
read by an older one.

Membership is the view: `p ∈ m` says that the bit of `p` is set, and each operation is
described by what it does to it.

    p ∈ ofBits b ↔ b.getLsbD p.bit             (mem_ofBits)
    p ∈ a ∪ b ↔ p ∈ a ∨ p ∈ b                  (mem_union)
    p ∈ a \ b ↔ p ∈ a ∧ p ∉ b                  (mem_sdiff)
    a = b ↔ ∀ p, p ∈ a ↔ p ∈ b                 (ext_iff_mem)
    a ⊆ b ↔ ∀ p, p ∈ a → p ∈ b                 (subset_iff_mem)
-/

namespace Turnstile

/-- The bits of all named permissions. -/
def knownBits : BitVec 64 := 0x400000003FFFFFFF#64

structure Mask where
  bits : BitVec 64
  bits_known : bits &&& knownBits = bits
  deriving DecidableEq

namespace Mask

/-! ## Construction -/

/-- The named permissions among some bits. -/
def ofBits (b : BitVec 64) : Mask :=
  ⟨b &&& knownBits, by rw [BitVec.and_assoc, BitVec.and_self]⟩

def empty : Mask := ⟨0#64, by decide⟩

/-- Every permission. -/
def all : Mask := ⟨knownBits, by decide⟩

def union (a b : Mask) : Mask := ofBits (a.bits ||| b.bits)

/-- The permissions of `a` that are not in `b`. -/
def sdiff (a b : Mask) : Mask := ofBits (a.bits &&& ~~~b.bits)

def single (p : Permission) : Mask := ofBits (1#64 <<< p.bit)

instance : EmptyCollection Mask := ⟨empty⟩
instance : Union Mask := ⟨union⟩
instance : SDiff Mask := ⟨sdiff⟩
instance : Singleton Permission Mask := ⟨single⟩

def ofList (ps : List Permission) : Mask := ps.foldl (fun m p => m ∪ {p}) ∅

/-! ## Tests -/

instance : Membership Permission Mask := ⟨fun m p => m.bits.getLsbD p.bit = true⟩

instance (p : Permission) (m : Mask) : Decidable (p ∈ m) :=
  inferInstanceAs (Decidable (m.bits.getLsbD p.bit = true))

instance : HasSubset Mask := ⟨fun a b => a.bits &&& b.bits = a.bits⟩

instance (a b : Mask) : Decidable (a ⊆ b) :=
  inferInstanceAs (Decidable (a.bits &&& b.bits = a.bits))

def isEmpty (m : Mask) : Bool := m.bits == 0#64

/-- Whether two masks share a permission. -/
def overlaps (a b : Mask) : Bool := a.bits &&& b.bits != 0#64

def isAdmin (m : Mask) : Bool := decide (.administrator ∈ m)

/-- The one test by which an action is allowed: an administrator passes, and so does
whoever holds all that is required. -/
def grants (m required : Mask) : Bool := m.isAdmin || decide (required ⊆ m)

/-! ## Presets -/

/-- What everyone in a new server may do. -/
def everyoneDefault : Mask := ofList
  [.sendMessages, .embedLinks, .attachFiles, .useEmoji, .addReactions, .voiceConnect,
   .voiceSpeak, .createInvite, .viewChannel, .readMessageHistory, .createThreads]

def moderatorDefault : Mask := everyoneDefault ∪ ofList
  [.voiceMuteOthers, .voiceDeafenOthers, .voiceMoveMembers, .manageMessages, .timeoutMembers,
   .kickMembers, .viewAuditLog, .manageInvites, .screenShare, .mentionEveryone, .manageThreads]

/-- For senior moderators. -/
def officerDefault : Mask := moderatorDefault ∪ ofList
  [.banMembers, .manageChannels, .managePages, .manageWebhooks, .manageEmojis]

/-- What the default role of a server may never hold. -/
def everyoneForbidden : Mask := ofList
  [.voiceMuteOthers, .voiceDeafenOthers, .voiceMoveMembers, .manageMessages, .timeoutMembers,
   .kickMembers, .banMembers, .manageChannels, .manageRoles, .viewAuditLog, .manageServer,
   .transferOwnership, .manageInvites, .managePages, .mentionEveryone, .manageWebhooks,
   .manageThreads, .manageEmojis, .administrator]

/-- Whether the default role of a server may hold this mask. -/
def fitsEveryone (m : Mask) : Bool := !m.overlaps everyoneForbidden

/-! ## Columns, text and JSON -/

/-- A mask is stored in a signed 64-bit column, bit for bit. -/
def ofColumn (v : Int64) : Mask := ofBits v.toBitVec

def toColumn (m : Mask) : Int64 := Int64.ofBitVec m.bits

/-- The names held, lowest bit first. -/
def names (m : Mask) : List String := (Permission.all.filter (· ∈ m)).map Permission.name

def text (m : Mask) : String :=
  "Permissions(" ++ (if m.isEmpty then "0x0" else String.intercalate " | " m.names) ++ ")"

def toNat (m : Mask) : Nat := m.bits.toNat

def toJson (m : Mask) : Json := .int m.toNat

def ofJson? (j : Json) : Option Mask := j.uint64?.map fun n => ofBits n.toBitVec

/-! ## Lemmas -/

theorem known_bit (p : Permission) : knownBits.getLsbD p.bit = true := by cases p <;> rfl

/-- Only bits of named permissions are known. -/
theorem exists_of_known : ∀ i, i < 64 → knownBits.getLsbD i = true → ∃ p ∈ Permission.all, p.bit = i := by
  decide

@[simp] theorem mem_ofBits (p : Permission) (b : BitVec 64) :
    p ∈ ofBits b ↔ b.getLsbD p.bit = true := by
  simp [Membership.mem, ofBits, known_bit]

@[simp] theorem mem_union (p : Permission) (a b : Mask) : p ∈ a ∪ b ↔ p ∈ a ∨ p ∈ b := by
  show p ∈ ofBits _ ↔ _
  rw [mem_ofBits]
  simp [Membership.mem]

@[simp] theorem mem_sdiff (p : Permission) (a b : Mask) : p ∈ a \ b ↔ p ∈ a ∧ ¬ p ∈ b := by
  show p ∈ ofBits _ ↔ _
  rw [mem_ofBits]
  simp [Membership.mem, Permission.bit_lt]

@[simp] theorem not_mem_empty (p : Permission) : ¬ p ∈ (∅ : Mask) := by
  simp [Membership.mem, EmptyCollection.emptyCollection, empty]

@[simp] theorem mem_all (p : Permission) : p ∈ all := known_bit p

/-- A mask is the set of its permissions. -/
theorem ext_iff_mem {a b : Mask} : a = b ↔ ∀ p, p ∈ a ↔ p ∈ b := by
  refine ⟨fun h p => by rw [h], fun h => ?_⟩
  have hb : a.bits = b.bits := by
    apply BitVec.eq_of_getLsbD_eq
    intro i hi
    cases hk : knownBits.getLsbD i with
    | false =>
      rw [← a.bits_known, ← b.bits_known]
      simp [hk]
    | true =>
      obtain ⟨p, -, rfl⟩ := exists_of_known i hi hk
      have := h p
      simp only [Membership.mem] at this
      exact Bool.eq_iff_iff.2 this
  cases a; cases b; simp_all

@[simp] theorem mem_single (p q : Permission) : p ∈ ({q} : Mask) ↔ p = q := by
  show p ∈ ofBits _ ↔ _
  rw [mem_ofBits]
  simp only [BitVec.getLsbD_shiftLeft, BitVec.getLsbD_one, Permission.bit_lt, decide_true,
    Bool.true_and, Bool.and_eq_true, Bool.not_eq_true', decide_eq_true_eq, decide_eq_false_iff_not]
  constructor
  · rintro ⟨h1, h2⟩
    exact Permission.bit_inj (by omega)
  · rintro rfl
    omega

theorem subset_iff_mem (a b : Mask) : a ⊆ b ↔ ∀ p, p ∈ a → p ∈ b := by
  constructor
  · intro h p hp
    have hb : (a.bits &&& b.bits).getLsbD p.bit = true := by
      rw [show a.bits &&& b.bits = a.bits from h]
      exact hp
    rw [BitVec.getLsbD_and, Bool.and_eq_true] at hb
    exact hb.2
  · intro h
    have hinter : ofBits (a.bits &&& b.bits) = a := by
      rw [ext_iff_mem]
      intro p
      rw [mem_ofBits, BitVec.getLsbD_and, Bool.and_eq_true]
      exact ⟨fun hp => hp.1, fun hp => ⟨hp, h p hp⟩⟩
    calc a.bits &&& b.bits = a.bits &&& knownBits &&& b.bits := by rw [a.bits_known]
      _ = a.bits &&& b.bits &&& knownBits := by
        rw [BitVec.and_assoc, BitVec.and_comm knownBits, BitVec.and_assoc]
      _ = a.bits := congrArg bits hinter

theorem isEmpty_iff (m : Mask) : m.isEmpty = true ↔ m = ∅ := by
  rw [isEmpty, beq_iff_eq]
  constructor
  · intro h
    obtain ⟨bits, known⟩ := m
    have hbits : bits = 0#64 := h
    subst hbits
    rfl
  · intro h
    rw [h]
    rfl

/-- Nothing is left over exactly if all is contained. -/
theorem isEmpty_sdiff_iff (a b : Mask) : (a \ b).isEmpty = true ↔ a ⊆ b := by
  rw [isEmpty_iff, ext_iff_mem, subset_iff_mem]
  simp

theorem isAdmin_iff (m : Mask) : m.isAdmin = true ↔ .administrator ∈ m := decide_eq_true_iff

theorem single_subset_iff {p : Permission} {m : Mask} : {p} ⊆ m ↔ p ∈ m := by
  simp only [subset_iff_mem, mem_single, forall_eq]

/-- What is required is granted to whoever holds all of it, and to an administrator. -/
theorem grants_iff (m required : Mask) :
    m.grants required = true ↔ .administrator ∈ m ∨ required ⊆ m := by
  rw [grants, Bool.or_eq_true, isAdmin_iff, decide_eq_true_iff]

theorem grants_single_iff (m : Mask) (p : Permission) :
    m.grants {p} = true ↔ .administrator ∈ m ∨ p ∈ m := by
  rw [grants_iff, single_subset_iff]

theorem single_sdiff {m : Mask} {p : Permission} (h : ¬ p ∈ m) : ({p} : Mask) \ m = {p} := by
  rw [ext_iff_mem]
  intro q
  rw [mem_sdiff, mem_single]
  exact ⟨fun hq => hq.1, fun hq => ⟨hq, hq ▸ h⟩⟩

end Mask

end Turnstile

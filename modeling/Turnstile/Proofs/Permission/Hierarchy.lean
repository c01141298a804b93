import Mathlib.Data.List.Chain
import Turnstile.Proofs.Permission.RoleEdits

/-!
# The hierarchy of members

Members stand in an order by their ranks, the owner apart. Whoever may remove another member
ranks strictly above, so no two members may remove each other, and no chain of members comes
back to where it began. More roles only raise a member.

The owner holds every permission and has the first rank there is. A role may stand at that
position as well, and then the owner neither changes it nor removes those who hold it: every
other role and every other member is below the owner.

    p ≤ rankByRoles m roles ↔ no role held stands before p                 (le_rankByRoles_iff)
    w.MayModerate x y ↔ y is not the owner and x ranks above y             (mayModerate_iff)
    more roles → no lower a rank                                           (rank_le_of_roles_subset)
    the owner and a role or a member: all but those at the first rank      (owner_stands_above)
    the hierarchy is strict                                                (moderation_is_strict)
-/

namespace Turnstile

/-- What an actor may do, in a channel if one is given. -/
def Actor.permissionsIn (a : Actor) : Option Channel → Mask
  | none => a.serverPermissions
  | some c => a.channelPermissions c

/-- `x` may remove or silence `y`. -/
def Realm.MayModerate (w : Realm) (x y : Member) : Prop :=
  checkModerate (w.actor x).rank (w.actor y).rank (w.actor y).isOwner = .ok ()

/-! ## Ranks -/

theorem le_foldl_min_iff (p first : Int32) (rest : List Int32) :
    p ≤ rest.foldl min first ↔ p ≤ first ∧ ∀ q ∈ rest, p ≤ q := by
  induction rest generalizing first with
  | nil => simp
  | cons q rest ih => rw [List.foldl_cons, ih, Std.le_min_iff, List.forall_mem_cons, and_assoc]

theorem le_rankByRoles_iff (p : Int32) (m : Member) (roles : List Role) :
    p ≤ rankByRoles m roles ↔ ∀ r ∈ roles, r.id ∈ m.roles → p ≤ r.position := by
  rw [rankByRoles, le_foldl_min_iff, List.forall_mem_map]
  simp only [Int32.le_maxValue, true_and, Member.heldRoles, Member.holds, List.mem_filter,
    List.contains_iff_mem, and_imp]

theorem minValue_lt_iff (p : Int32) : Int32.minValue < p ↔ p ≠ Int32.minValue := by
  constructor
  · intro h hp
    rw [hp] at h
    exact Int32.lt_irrefl h
  · intro hp
    exact Int32.lt_of_le_of_ne (Int32.minValue_le p) (Ne.symm hp)

/-- Just one position is before the second. -/
theorem second_le_iff (p : Int32) : Int32.minValue + 1 ≤ p ↔ Int32.minValue < p := by
  have hsecond : (Int32.minValue + 1).toInt = Int32.minValue.toInt + 1 := by decide
  rw [Int32.le_iff_toInt_le, Int32.lt_iff_toInt_lt, hsecond]
  omega

/-- Below the first rank are those who hold no role that stands there. -/
theorem minValue_lt_rankByRoles_iff (m : Member) (roles : List Role) :
    Int32.minValue < rankByRoles m roles ↔
      ∀ r ∈ roles, r.id ∈ m.roles → r.position ≠ Int32.minValue := by
  rw [← second_le_iff, le_rankByRoles_iff]
  simp only [second_le_iff, minValue_lt_iff]

namespace Realm

variable (w : Realm) {x y z : Member}

theorem isOwner_iff (m : Member) : (w.actor m).isOwner = true ↔ m.userId = w.server.ownerId :=
  beq_iff_eq

theorem rank_of_owner (h : x.userId = w.server.ownerId) : (w.actor x).rank = Int32.minValue :=
  if_pos ((w.isOwner_iff x).2 h)

theorem rank_of_not_owner (h : x.userId ≠ w.server.ownerId) :
    (w.actor x).rank = rankByRoles x w.roles :=
  if_neg (mt (w.isOwner_iff x).1 h)

/-- More roles make nobody rank lower. -/
theorem rank_le_of_roles_subset {ids : List Uuid} (h : x.roles ⊆ ids) :
    (w.actor { x with roles := ids }).rank ≤ (w.actor x).rank := by
  by_cases howner : x.userId = w.server.ownerId
  · rw [w.rank_of_owner (x := { x with roles := ids }) howner]
    exact Int32.minValue_le _
  · rw [w.rank_of_not_owner (x := { x with roles := ids }) howner, w.rank_of_not_owner howner,
      le_rankByRoles_iff]
    intro r hr hheld
    exact (le_rankByRoles_iff _ _ _).1 (Int32.le_refl _) r hr (h hheld)

/-! ## Who may moderate whom -/

theorem mayModerate_iff : w.MayModerate x y ↔
    y.userId ≠ w.server.ownerId ∧ (w.actor x).rank < (w.actor y).rank := by
  rw [MayModerate, checkModerate, ← Int32.not_le, Ne, ← w.isOwner_iff y]
  split
  · next howner => simp [howner]
  · next howner =>
    split
    · next hrank => simp [hrank]
    · next hrank => simp [howner, hrank]

variable {w}

theorem MayModerate.irrefl : ¬ w.MayModerate x x := by
  intro h
  exact Int32.lt_irrefl (w.mayModerate_iff.1 h).2

theorem MayModerate.trans (hxy : w.MayModerate x y) (hyz : w.MayModerate y z) :
    w.MayModerate x z := by
  rw [mayModerate_iff] at hxy hyz ⊢
  exact ⟨hyz.1, Int32.lt_trans hxy.2 hyz.2⟩

instance : Trans w.MayModerate w.MayModerate w.MayModerate := ⟨MayModerate.trans⟩

theorem MayModerate.asymm (hxy : w.MayModerate x y) : ¬ w.MayModerate y x :=
  fun hyx => MayModerate.irrefl (hxy.trans hyx)

/-- The first of a chain may moderate all the others. -/
theorem not_mem_of_isChain {chain : List Member} (h : (x :: chain).IsChain w.MayModerate) :
    x ∉ chain := by
  intro hx
  exact MayModerate.irrefl ((List.pairwise_cons.1 (List.isChain_iff_pairwise.1 h)).1 x hx)

end Realm

/-! ## The owner -/

theorem permissionsIn_of_owner (a : Actor) (h : a.member.userId = a.server.ownerId)
    (channel : Option Channel) : a.permissionsIn channel = .all := by
  cases channel with
  | none => exact resolve_of_all _ _ _ [] none (.inl h)
  | some c => exact resolve_of_all _ _ _ _ (some c) (.inl h)

/-- **The owner stands above all but the first rank.** In the server and in every channel the
owner passes every requirement, may change a role just if the role does not stand at the first
position, whatever the role is to be given, and may moderate any other member just if that
member holds no role at the first position. -/
theorem owner_stands_above (w : Realm) (owner : Member)
    (howner : owner.userId = w.server.ownerId) :
    (∀ channel,
      (∀ required,
        requirePermission ((w.actor owner).permissionsIn channel) required = .ok ()) ∧
      ∀ r ∈ w.roles, ∀ new,
        checkManageRole ((w.actor owner).permissionsIn channel) (w.actor owner).rank r.position
          new = .ok () ↔ r.position ≠ Int32.minValue) ∧
    ∀ m : Member, m.userId ≠ w.server.ownerId →
      (w.MayModerate owner m ↔
        ∀ r ∈ w.roles, r.id ∈ m.roles → r.position ≠ Int32.minValue) := by
  have hadmin : Permission.administrator ∈ Mask.all := Mask.mem_all _
  refine ⟨fun channel => ?_, fun m hm => ?_⟩
  · rw [permissionsIn_of_owner _ howner]
    refine ⟨fun required => (requirePermission_eq_ok_iff _ _).2 (.inl hadmin), fun r _ new => ?_⟩
    rw [checkManageRole_iff, w.rank_of_owner howner, minValue_lt_iff]
    exact ⟨fun h => h.2.1, fun h => ⟨.inl hadmin, h, .inl hadmin⟩⟩
  · rw [w.mayModerate_iff, w.rank_of_owner howner, w.rank_of_not_owner hm,
      minValue_lt_rankByRoles_iff]
    exact ⟨fun h => h.2, fun h => ⟨hm, h⟩⟩

/-- A realm where one role stands at the first position and another right after it. -/
def summitRealm : Realm :=
  ⟨⟨⟨1⟩, ⟨2⟩⟩,
   [.everyone ⟨1⟩ {.sendMessages},
    ⟨⟨5⟩, ⟨1⟩, "founders", ∅, Int32.minValue, false⟩,
    ⟨⟨6⟩, ⟨1⟩, "elders", ∅, Int32.minValue + 1, false⟩],
   [⟨⟨4⟩, .user ⟨2⟩, ∅, .all⟩]⟩

/-- The owner, who holds no role. -/
def summitOwner : Member := ⟨⟨2⟩, ⟨1⟩, []⟩

def founder : Member := ⟨⟨10⟩, ⟨1⟩, [⟨5⟩]⟩

def elder : Member := ⟨⟨11⟩, ⟨1⟩, [⟨6⟩]⟩

/-- In a channel where everything is denied to the owner, the elders and their role are still
below the owner. -/
theorem owner_stands_above_elders :
    summitOwner.userId = summitRealm.server.ownerId ∧
    (∀ required, requirePermission
      ((summitRealm.actor summitOwner).permissionsIn (some ⟨⟨4⟩, ⟨1⟩, 0⟩)) required = .ok ()) ∧
    checkManageRole ((summitRealm.actor summitOwner).permissionsIn (some ⟨⟨4⟩, ⟨1⟩, 0⟩))
      (summitRealm.actor summitOwner).rank (Int32.minValue + 1) (some .all) = .ok () ∧
    elder.userId ≠ summitRealm.server.ownerId ∧ summitRealm.MayModerate summitOwner elder := by
  obtain ⟨hchannels, hmembers⟩ := owner_stands_above summitRealm summitOwner rfl
  obtain ⟨hrequired, hmanage⟩ := hchannels (some ⟨⟨4⟩, ⟨1⟩, 0⟩)
  have helders := hmanage _ (List.mem_of_getElem? (i := 2) rfl) (some .all)
  exact ⟨rfl, hrequired, helders.2 (by decide), by decide,
    (hmembers elder (by decide)).2 (by decide)⟩

/-- So the owner does not stand above everyone: neither may the owner change the role at the
first position, nor moderate who holds it. -/
theorem owner_not_above_founders :
    ¬ ∀ (w : Realm) (owner : Member), owner.userId = w.server.ownerId →
      (∀ channel,
        (∀ required,
          requirePermission ((w.actor owner).permissionsIn channel) required = .ok ()) ∧
        ∀ r ∈ w.roles, ∀ new,
          checkManageRole ((w.actor owner).permissionsIn channel) (w.actor owner).rank r.position
            new = .ok ()) ∧
      ∀ m : Member, m.userId ≠ w.server.ownerId → w.MayModerate owner m := by
  intro h
  have hfounder := (h summitRealm summitOwner rfl).2 founder (by decide)
  rw [Realm.mayModerate_iff] at hfounder
  exact absurd hfounder.2 (by decide)

/-! ## The order -/

/-- **Moderation follows a strict hierarchy.** Nobody may moderate themselves, no two members
each other, and whoever may moderate a member may moderate all whom that member may; so a
chain, each of whose members may moderate the next, never comes back to its first. Nobody may
moderate the owner. With more roles a member may moderate no fewer, and is moderated by no
more. And a member who may change a role is not moderated by others whose rank it gives. -/
theorem moderation_is_strict (w : Realm) :
    (∀ x, ¬ w.MayModerate x x) ∧
    (∀ x y, w.MayModerate x y → ¬ w.MayModerate y x) ∧
    (∀ x y z, w.MayModerate x y → w.MayModerate y z → w.MayModerate x z) ∧
    (∀ (x : Member) (chain : List Member), (x :: chain).IsChain w.MayModerate → x ∉ chain) ∧
    (∀ x owner : Member, owner.userId = w.server.ownerId → ¬ w.MayModerate x owner) ∧
    (∀ (x : Member) (ids : List Uuid), x.roles ⊆ ids →
      (∀ y, w.MayModerate x y → w.MayModerate { x with roles := ids } y) ∧
      ∀ y, w.MayModerate y { x with roles := ids } → w.MayModerate y x) ∧
    ∀ (x : Member) (held : Mask) (position : Int32) (new : Option Mask),
      checkManageRole held (w.actor x).rank position new = .ok () →
      ∀ y : Member, y.userId ≠ w.server.ownerId → (w.actor y).rank = position →
        ¬ w.MayModerate y x := by
  refine ⟨fun x => Realm.MayModerate.irrefl, fun x y => Realm.MayModerate.asymm,
    fun x y z => Realm.MayModerate.trans, fun x chain => Realm.not_mem_of_isChain, ?_, ?_, ?_⟩
  · intro x owner howner h
    exact (w.mayModerate_iff.1 h).1 howner
  · intro x ids hids
    have hrank := w.rank_le_of_roles_subset hids
    simp only [Realm.mayModerate_iff]
    exact ⟨fun y h => ⟨h.1, Int32.lt_of_le_of_lt hrank h.2⟩,
      fun y h => ⟨h.1, Int32.lt_of_lt_of_le h.2 hrank⟩⟩
  · intro x held position new hmanage y _ hrank hmoderate
    have habove := ((checkManageRole_iff _ _ _ _).1 hmanage).2.1
    rw [← hrank] at habove
    exact Int32.lt_asymm habove (w.mayModerate_iff.1 hmoderate).2

def newcomer : Member := ⟨⟨12⟩, ⟨1⟩, [⟨7⟩]⟩

/-- A moderator, a helper and a newcomer are such a chain, and stay one when the helper is
given the role of the newcomers as well. The moderator may change the role of the helpers. -/
theorem staff_is_strict :
    [moderator, helper, newcomer].IsChain staffedRealm.MayModerate ∧
    moderator ∉ [helper, newcomer] ∧
    staffedRealm.MayModerate moderator newcomer ∧
    ¬ staffedRealm.MayModerate newcomer helper ∧
    helper.roles ⊆ [⟨7⟩, ⟨6⟩] ∧
    staffedRealm.MayModerate { helper with roles := [⟨7⟩, ⟨6⟩] } newcomer ∧
    checkManageRole (staffedRealm.actor moderator).serverPermissions
      (staffedRealm.actor moderator).rank (staffedRealm.actor helper).rank none = .ok () ∧
    ¬ staffedRealm.MayModerate helper moderator := by
  have hfirst : staffedRealm.MayModerate moderator helper := by
    rw [Realm.mayModerate_iff]
    decide
  have hsecond : staffedRealm.MayModerate helper newcomer := by
    rw [Realm.mayModerate_iff]
    decide
  have hchain : [moderator, helper, newcomer].IsChain staffedRealm.MayModerate :=
    .cons_cons hfirst (.cons_cons hsecond (.singleton _))
  have hids : helper.roles ⊆ [⟨7⟩, ⟨6⟩] := by decide
  have hmanage : checkManageRole (staffedRealm.actor moderator).serverPermissions
      (staffedRealm.actor moderator).rank (staffedRealm.actor helper).rank none = .ok () := rfl
  obtain ⟨-, hasymm, htrans, hchains, -, hroles, hmanages⟩ := moderation_is_strict staffedRealm
  exact ⟨hchain, hchains _ _ hchain, htrans _ _ _ hfirst hsecond, hasymm _ _ hsecond, hids,
    (hroles helper _ hids).1 newcomer hsecond, hmanage,
    hmanages moderator _ _ none hmanage helper (by decide) rfl⟩

end Turnstile

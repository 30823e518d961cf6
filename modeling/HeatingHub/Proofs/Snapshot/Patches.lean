import HeatingHub.Proofs.Hub.Effect

/-!
# What patches write

A patch writes one setting: one field of the first record with an id, or one of the two overrides.
It applies wherever the component of the setting exists (`Patch.applied?_eq_some`). Patches of
different settings commute, the later of two patches of one setting is the one that counts, and
whatever is not the setting stays as it was (`Setting.Spares`).
-/

namespace HeatingHub

/-! ## Settings -/

/-- What a patch can write. -/
inductive Setting where
  | holiday
  | quickMode
  | zoneVeto (id : String)
  | zoneMode (id : String)
  | roomVeto (id : String)
  | roomMode (id : String)
  | roomTarget (id : String)
  | hotWaterMode (id : String)
  | hotWaterTarget (id : String)
deriving DecidableEq

/-- The component that a setting belongs to; the overrides belong to none. -/
def Setting.component? : Setting → Option ComponentId
  | holiday | quickMode => none
  | zoneVeto id | zoneMode id => some (.zone id)
  | roomVeto id | roomMode id | roomTarget id => some (.room id)
  | hotWaterMode id | hotWaterTarget id => some (.hotWater id)

namespace Patch

/-- The setting that a patch writes. -/
def setting : Patch → Setting
  | holiday _ => .holiday
  | quickMode _ => .quickMode
  | zoneVeto id _ => .zoneVeto id
  | zoneMode id _ => .zoneMode id
  | roomVeto id _ => .roomVeto id
  | roomMode id _ => .roomMode id
  | roomTarget id _ => .roomTarget id
  | hotWaterMode id _ => .hotWaterMode id
  | hotWaterTarget id _ => .hotWaterTarget id

/-- The installation with the setting written. -/
def made (i : Installation) : Patch → Installation
  | holiday h => { i with holiday := h }
  | quickMode q => { i with quickMode := q }
  | zoneVeto id veto => i.onZone id fun z => { z with veto }
  | zoneMode id mode => i.onZone id fun z => { z with mode }
  | roomVeto id veto => i.onRoom id fun r => { r with veto }
  | roomMode id mode => i.onRoom id fun r => { r with mode }
  | roomTarget id target => i.onRoom id fun r => { r with target }
  | hotWaterMode id mode => i.onHotWater id fun h => { h with mode }
  | hotWaterTarget id target => i.onHotWater id fun h => { h with target }

end Patch

/-! ## The first record with an id -/

section First

variable {α : Type} {id : α → String} {f g : α → α} {a b : String}

theorem map_id_modifyFirst {p : α → Bool} (hf : ∀ x, id (f x) = id x) (l : List α) :
    (modifyFirst p f l).map id = l.map id := by
  induction l with
  | nil => rfl
  | cons x l ih =>
    cases hx : p x with
    | true => rw [modifyFirst_cons_of_pos hx, List.map_cons, List.map_cons, hf]
    | false => rw [modifyFirst_cons_of_neg hx, List.map_cons, List.map_cons, ih]

theorem modifyFirst_cons (x : α) (l : List α) :
    modifyFirst (id · == a) f (x :: l) =
      if id x = a then f x :: l else x :: modifyFirst (id · == a) f l := by
  by_cases hx : id x = a
  · rw [if_pos hx]
    exact modifyFirst_cons_of_pos (p := (id · == a)) (beq_iff_eq.2 hx) l
  · rw [if_neg hx]
    exact modifyFirst_cons_of_neg (p := (id · == a)) (beq_eq_false_iff_ne.2 hx) l

/-- Changes that leave ids alone commute, if they do where they meet. -/
theorem modifyFirst_comm (hf : ∀ x, id (f x) = id x) (hg : ∀ x, id (g x) = id x)
    (meet : a = b → ∀ x, g (f x) = f (g x)) (l : List α) :
    modifyFirst (id · == b) g (modifyFirst (id · == a) f l) =
      modifyFirst (id · == a) f (modifyFirst (id · == b) g l) := by
  induction l with
  | nil => rfl
  | cons x l ih =>
    rw [modifyFirst_cons, modifyFirst_cons]
    by_cases ha : id x = a <;> by_cases hb : id x = b
    · rw [if_pos ha, if_pos hb, modifyFirst_cons, modifyFirst_cons, if_pos ((hf x).trans hb),
        if_pos ((hg x).trans ha), meet (ha.symm.trans hb)]
    · rw [if_pos ha, if_neg hb, modifyFirst_cons, modifyFirst_cons, if_pos ha, if_neg]
      rwa [hf]
    · rw [if_neg ha, if_pos hb, modifyFirst_cons, modifyFirst_cons, if_pos hb, if_neg]
      rwa [hg]
    · rw [if_neg ha, if_neg hb, modifyFirst_cons, modifyFirst_cons, if_neg ha, if_neg hb, ih]

/-- Of two changes to one record the second counts, if it covers the first. -/
theorem modifyFirst_modifyFirst (hf : ∀ x, id (f x) = id x) (covers : ∀ x, g (f x) = g x)
    (l : List α) :
    modifyFirst (id · == a) g (modifyFirst (id · == a) f l) = modifyFirst (id · == a) g l := by
  induction l with
  | nil => rfl
  | cons x l ih =>
    rw [modifyFirst_cons, modifyFirst_cons]
    by_cases hx : id x = a
    · rw [if_pos hx, if_pos hx, modifyFirst_cons, if_pos ((hf x).trans hx), covers]
    · rw [if_neg hx, if_neg hx, modifyFirst_cons, if_neg hx, ih]

/-- A record stays as it is, unless it is the first with the id. -/
theorem getElem?_modifyFirst (before : List α) (x : α) (after : List α) :
    (modifyFirst (id · == a) f (before ++ x :: after))[before.length]? = some x ∨
      id x = a ∧ id x ∉ before.map id ∧
        (modifyFirst (id · == a) f (before ++ x :: after))[before.length]? = some (f x) := by
  induction before with
  | nil =>
    rw [List.nil_append, modifyFirst_cons]
    by_cases hx : id x = a
    · rw [if_pos hx]
      exact .inr ⟨hx, List.not_mem_nil, rfl⟩
    · rw [if_neg hx]
      exact .inl rfl
  | cons y before ih =>
    rw [List.cons_append, modifyFirst_cons]
    by_cases hy : id y = a
    · rw [if_pos hy]
      simp
    · rw [if_neg hy, List.length_cons, List.getElem?_cons_succ]
      refine ih.imp_right ?_
      rintro ⟨rfl, others, changed⟩
      exact ⟨rfl, List.not_mem_cons_of_ne_of_not_mem (Ne.symm hy) others, changed⟩

end First

namespace Installation

variable {i : Installation} {a b : String}

section Zones

variable {f g : Zone → Zone}

theorem zoneIds_onZone (hf : ∀ z, (f z).id = z.id) :
    (i.onZone a f).zones.map (·.id) = i.zones.map (·.id) :=
  map_id_modifyFirst hf i.zones

theorem onZone_comm (hf : ∀ z, (f z).id = z.id) (hg : ∀ z, (g z).id = z.id)
    (meet : a = b → ∀ z, g (f z) = f (g z)) :
    (i.onZone a f).onZone b g = (i.onZone b g).onZone a f :=
  congrArg (fun zones => { i with zones }) (modifyFirst_comm hf hg meet i.zones)

theorem onZone_onZone (hf : ∀ z, (f z).id = z.id) (covers : ∀ z, g (f z) = g z) :
    (i.onZone a f).onZone a g = i.onZone a g :=
  congrArg (fun zones => { i with zones }) (modifyFirst_modifyFirst hf covers i.zones)

end Zones

section Rooms

variable {f g : Room → Room}

theorem roomIds_onRoom (hf : ∀ r, (f r).id = r.id) :
    (i.onRoom a f).rooms.map (·.id) = i.rooms.map (·.id) :=
  map_id_modifyFirst hf i.rooms

theorem onRoom_comm (hf : ∀ r, (f r).id = r.id) (hg : ∀ r, (g r).id = r.id)
    (meet : a = b → ∀ r, g (f r) = f (g r)) :
    (i.onRoom a f).onRoom b g = (i.onRoom b g).onRoom a f :=
  congrArg (fun rooms => { i with rooms }) (modifyFirst_comm hf hg meet i.rooms)

theorem onRoom_onRoom (hf : ∀ r, (f r).id = r.id) (covers : ∀ r, g (f r) = g r) :
    (i.onRoom a f).onRoom a g = i.onRoom a g :=
  congrArg (fun rooms => { i with rooms }) (modifyFirst_modifyFirst hf covers i.rooms)

end Rooms

section Water

variable {f g : HotWater → HotWater}

theorem hotWaterId_onHotWater (hf : ∀ h, (f h).id = h.id) :
    (i.onHotWater a f).hotWater.map (·.id) = i.hotWater.map (·.id) := by
  unfold onHotWater
  cases i.hotWater with
  | none => rfl
  | some h => by_cases ha : h.id = a <;> simp [ha, hf]

theorem onHotWater_comm (hf : ∀ h, (f h).id = h.id) (hg : ∀ h, (g h).id = h.id)
    (meet : a = b → ∀ h, g (f h) = f (g h)) :
    (i.onHotWater a f).onHotWater b g = (i.onHotWater b g).onHotWater a f := by
  unfold onHotWater
  cases i.hotWater with
  | none => rfl
  | some h => by_cases ha : h.id = a <;> by_cases hb : h.id = b <;> simp_all

theorem onHotWater_onHotWater (hf : ∀ h, (f h).id = h.id) (covers : ∀ h, g (f h) = g h) :
    (i.onHotWater a f).onHotWater a g = i.onHotWater a g := by
  unfold onHotWater
  cases i.hotWater with
  | none => rfl
  | some h => by_cases ha : h.id = a <;> simp [ha, hf, covers]

end Water

/-! ## Where patches apply -/

/-- The component is one of the installation. -/
def Has (i : Installation) : ComponentId → Prop
  | .zone id => id ∈ i.zones.map (·.id)
  | .room id => id ∈ i.rooms.map (·.id)
  | .hotWater id => i.hotWater.map (·.id) = some id
  | .circulation id => i.circulation.map (·.id) = some id

theorem isSome_zone? {id : String} : (i.zone? id).isSome ↔ i.Has (.zone id) := by
  simp [zone?, Has]

theorem isSome_room? {id : String} : (i.room? id).isSome ↔ i.Has (.room id) := by
  simp [room?, Has]

theorem isSome_hotWater? {id : String} : (i.hotWater? id).isSome ↔ i.Has (.hotWater id) := by
  unfold hotWater? Has
  cases i.hotWater <;> simp [Option.filter_some]

end Installation

/-- The component of the setting is there, if it belongs to one. -/
def Setting.In (k : Setting) (i : Installation) : Prop := ∀ id, k.component? = some id → i.Has id

theorem updateFirst?_eq_none {α : Type} {p : α → Bool} {f : α → α} {l : List α}
    (h : l.find? p = none) : updateFirst? p f l = none := by
  induction l with
  | nil => rfl
  | cons x l ih =>
    rw [List.find?_eq_none, List.forall_mem_cons] at h
    unfold updateFirst?
    rw [if_neg h.1, ih (List.find?_eq_none.2 h.2)]
    rfl

namespace Patch

variable {i : Installation} {p q : Patch}

theorem applied?_eq_some (h : p.setting.In i) : p.applied? i = some (p.made i) := by
  cases p with
  | holiday _ | quickMode _ => rfl
  | zoneVeto id _ | zoneMode id _ =>
    exact Installation.updateZone?_eq_some (Installation.isSome_zone?.2 (h _ rfl))
  | roomVeto id _ | roomMode id _ | roomTarget id _ =>
    exact Installation.updateRoom?_eq_some (Installation.isSome_room?.2 (h _ rfl))
  | hotWaterMode id _ | hotWaterTarget id _ =>
    exact Installation.updateHotWater?_eq_some (Installation.isSome_hotWater?.2 (h _ rfl))

theorem applied?_eq_none {id : ComponentId} (hid : p.setting.component? = some id)
    (missing : ¬i.Has id) : p.applied? i = none := by
  cases p with
  | holiday _ | quickMode _ => cases hid
  | zoneVeto _ _ | zoneMode _ _ =>
    obtain rfl := Option.some.inj hid
    have unfound := Option.not_isSome_iff_eq_none.1 (mt Installation.isSome_zone?.1 missing)
    exact congrArg (Option.map _) (updateFirst?_eq_none unfound)
  | roomVeto _ _ | roomMode _ _ | roomTarget _ _ =>
    obtain rfl := Option.some.inj hid
    have unfound := Option.not_isSome_iff_eq_none.1 (mt Installation.isSome_room?.1 missing)
    exact congrArg (Option.map _) (updateFirst?_eq_none unfound)
  | hotWaterMode _ _ | hotWaterTarget _ _ =>
    obtain rfl := Option.some.inj hid
    have unfound := Option.not_isSome_iff_eq_none.1 (mt Installation.isSome_hotWater?.1 missing)
    exact congrArg (Option.map _) unfound

/-! ## Patches made one after another -/

theorem zoneIds_made (p : Patch) (i : Installation) :
    (p.made i).zones.map (·.id) = i.zones.map (·.id) := by
  cases p with
  | zoneVeto _ _ | zoneMode _ _ => exact Installation.zoneIds_onZone fun _ => rfl
  | _ => rfl

theorem roomIds_made (p : Patch) (i : Installation) :
    (p.made i).rooms.map (·.id) = i.rooms.map (·.id) := by
  cases p with
  | roomVeto _ _ | roomMode _ _ | roomTarget _ _ => exact Installation.roomIds_onRoom fun _ => rfl
  | _ => rfl

theorem hotWaterId_made (p : Patch) (i : Installation) :
    (p.made i).hotWater.map (·.id) = i.hotWater.map (·.id) := by
  cases p with
  | hotWaterMode _ _ | hotWaterTarget _ _ =>
    exact Installation.hotWaterId_onHotWater fun _ => rfl
  | _ => rfl

theorem circulation_made (p : Patch) (i : Installation) : (p.made i).circulation = i.circulation := by
  cases p <;> rfl

/-- No patch makes components or takes them away. -/
theorem has_made (p : Patch) (i : Installation) (id : ComponentId) :
    (p.made i).Has id ↔ i.Has id := by
  cases id with
  | zone id => exact Eq.to_iff (congrArg (id ∈ ·) (p.zoneIds_made i))
  | room id => exact Eq.to_iff (congrArg (id ∈ ·) (p.roomIds_made i))
  | hotWater id => exact Eq.to_iff (congrArg (· = some id) (p.hotWaterId_made i))
  | circulation id =>
    show (p.made i).circulation.map _ = _ ↔ _
    rw [p.circulation_made i]
    rfl

theorem in_made (p : Patch) (i : Installation) (k : Setting) : k.In (p.made i) ↔ k.In i :=
  forall_congr' fun id => imp_congr_right fun _ => p.has_made i id

/-- Patches of different settings commute. -/
theorem made_comm (apart : p.setting ≠ q.setting) (i : Installation) :
    q.made (p.made i) = p.made (q.made i) := by
  cases p with
  | holiday _ =>
    cases q with
    | holiday _ => exact absurd rfl apart
    | _ => rfl
  | quickMode _ =>
    cases q with
    | quickMode _ => exact absurd rfl apart
    | _ => rfl
  | zoneVeto a _ =>
    cases q with
    | zoneVeto b _ =>
      exact Installation.onZone_comm (fun _ => rfl) (fun _ => rfl)
        fun same => absurd (congrArg Setting.zoneVeto same) apart
    | zoneMode b _ =>
      exact Installation.onZone_comm (fun _ => rfl) (fun _ => rfl) fun _ _ => rfl
    | _ => rfl
  | zoneMode a _ =>
    cases q with
    | zoneMode b _ =>
      exact Installation.onZone_comm (fun _ => rfl) (fun _ => rfl)
        fun same => absurd (congrArg Setting.zoneMode same) apart
    | zoneVeto b _ =>
      exact Installation.onZone_comm (fun _ => rfl) (fun _ => rfl) fun _ _ => rfl
    | _ => rfl
  | roomVeto a _ =>
    cases q with
    | roomVeto b _ =>
      exact Installation.onRoom_comm (fun _ => rfl) (fun _ => rfl)
        fun same => absurd (congrArg Setting.roomVeto same) apart
    | roomMode b _ | roomTarget b _ =>
      exact Installation.onRoom_comm (fun _ => rfl) (fun _ => rfl) fun _ _ => rfl
    | _ => rfl
  | roomMode a _ =>
    cases q with
    | roomMode b _ =>
      exact Installation.onRoom_comm (fun _ => rfl) (fun _ => rfl)
        fun same => absurd (congrArg Setting.roomMode same) apart
    | roomVeto b _ | roomTarget b _ =>
      exact Installation.onRoom_comm (fun _ => rfl) (fun _ => rfl) fun _ _ => rfl
    | _ => rfl
  | roomTarget a _ =>
    cases q with
    | roomTarget b _ =>
      exact Installation.onRoom_comm (fun _ => rfl) (fun _ => rfl)
        fun same => absurd (congrArg Setting.roomTarget same) apart
    | roomVeto b _ | roomMode b _ =>
      exact Installation.onRoom_comm (fun _ => rfl) (fun _ => rfl) fun _ _ => rfl
    | _ => rfl
  | hotWaterMode a _ =>
    cases q with
    | hotWaterMode b _ =>
      exact Installation.onHotWater_comm (fun _ => rfl) (fun _ => rfl)
        fun same => absurd (congrArg Setting.hotWaterMode same) apart
    | hotWaterTarget b _ =>
      exact Installation.onHotWater_comm (fun _ => rfl) (fun _ => rfl) fun _ _ => rfl
    | _ => rfl
  | hotWaterTarget a _ =>
    cases q with
    | hotWaterTarget b _ =>
      exact Installation.onHotWater_comm (fun _ => rfl) (fun _ => rfl)
        fun same => absurd (congrArg Setting.hotWaterTarget same) apart
    | hotWaterMode b _ =>
      exact Installation.onHotWater_comm (fun _ => rfl) (fun _ => rfl) fun _ _ => rfl
    | _ => rfl

/-- Of two patches of one setting the second counts. -/
theorem made_made (same : p.setting = q.setting) (i : Installation) :
    q.made (p.made i) = q.made i := by
  cases p <;> cases q <;> cases same
  case holiday | quickMode => rfl
  case zoneVeto | zoneMode => exact Installation.onZone_onZone (fun _ => rfl) fun _ => rfl
  case roomVeto | roomMode | roomTarget =>
    exact Installation.onRoom_onRoom (fun _ => rfl) fun _ => rfl
  case hotWaterMode | hotWaterTarget =>
    exact Installation.onHotWater_onHotWater (fun _ => rfl) fun _ => rfl

end Patch

/-! ## What a patch leaves alone -/

namespace Setting

/-- The zone is as it was, but for the field that the setting names if it is a setting of it. -/
structure SparesZone (k : Setting) (z z' : Zone) : Prop where
  veto : k ≠ .zoneVeto z.id → z'.veto = z.veto
  mode : k ≠ .zoneMode z.id → z'.mode = z.mode
  rest : z' = { z with veto := z'.veto, mode := z'.mode }

/-- The room is as it was, but for the field that the setting names if it is a setting of it. -/
structure SparesRoom (k : Setting) (r r' : Room) : Prop where
  veto : k ≠ .roomVeto r.id → r'.veto = r.veto
  mode : k ≠ .roomMode r.id → r'.mode = r.mode
  target : k ≠ .roomTarget r.id → r'.target = r.target
  rest : r' = { r with veto := r'.veto, mode := r'.mode, target := r'.target }

/-- The hot water is as it was, but for the field that the setting names if it is a setting of
it. -/
structure SparesHotWater (k : Setting) (h h' : HotWater) : Prop where
  mode : k ≠ .hotWaterMode h.id → h'.mode = h.mode
  target : k ≠ .hotWaterTarget h.id → h'.target = h.target
  rest : h' = { h with mode := h'.mode, target := h'.target }

/-- Nothing but the setting has changed. -/
structure Spares (k : Setting) (i j : Installation) : Prop where
  zoneIds : j.zones.map (·.id) = i.zones.map (·.id)
  roomIds : j.rooms.map (·.id) = i.rooms.map (·.id)
  /-- Of the zones only the first with its id may have changed. -/
  zones : ∀ before z after, i.zones = before ++ z :: after →
    ∃ z', j.zones[before.length]? = some z' ∧ k.SparesZone z z' ∧
      (z' ≠ z → z.id ∉ before.map (·.id))
  /-- Of the rooms only the first with its id may have changed. -/
  rooms : ∀ before r after, i.rooms = before ++ r :: after →
    ∃ r', j.rooms[before.length]? = some r' ∧ k.SparesRoom r r' ∧
      (r' ≠ r → r.id ∉ before.map (·.id))
  hotWater : Option.Rel k.SparesHotWater i.hotWater j.hotWater
  holiday : k ≠ .holiday → j.holiday = i.holiday
  quickMode : k ≠ .quickMode → j.quickMode = i.quickMode
  rest : j = { i with
    holiday := j.holiday
    quickMode := j.quickMode
    zones := j.zones
    rooms := j.rooms
    hotWater := j.hotWater }

variable {k : Setting} {i : Installation} {id : String}

theorem sparesZone_refl (k : Setting) (z : Zone) : k.SparesZone z z := ⟨fun _ => rfl, fun _ => rfl, rfl⟩

theorem sparesRoom_refl (k : Setting) (r : Room) : k.SparesRoom r r :=
  ⟨fun _ => rfl, fun _ => rfl, fun _ => rfl, rfl⟩

theorem sparesHotWater_refl (k : Setting) (h : HotWater) : k.SparesHotWater h h :=
  ⟨fun _ => rfl, fun _ => rfl, rfl⟩

theorem spares_refl (k : Setting) (i : Installation) : k.Spares i i where
  zoneIds := rfl
  roomIds := rfl
  zones before z after split := by
    refine ⟨z, ?_, sparesZone_refl k z, absurd rfl⟩
    rw [split]
    simp
  rooms before r after split := by
    refine ⟨r, ?_, sparesRoom_refl k r, absurd rfl⟩
    rw [split]
    simp
  hotWater := by
    cases i.hotWater with
    | none => exact .none
    | some h => exact .some (sparesHotWater_refl k h)
  holiday _ := rfl
  quickMode _ := rfl
  rest := rfl

theorem spares_onZone {f : Zone → Zone} (hf : ∀ z, (f z).id = z.id)
    (own : ∀ z, z.id = id → k.SparesZone z (f z)) : k.Spares i (i.onZone id f) :=
  { spares_refl k i with
    zoneIds := Installation.zoneIds_onZone hf
    zones := by
      intro before z after split
      show ∃ z', (modifyFirst (·.id == id) f i.zones)[before.length]? = some z' ∧ _
      rw [split]
      rcases getElem?_modifyFirst before z after with same | ⟨named, first, changed⟩
      · exact ⟨z, same, sparesZone_refl k z, absurd rfl⟩
      · exact ⟨f z, changed, own z named, fun _ => first⟩
    rest := rfl }

theorem spares_onRoom {f : Room → Room} (hf : ∀ r, (f r).id = r.id)
    (own : ∀ r, r.id = id → k.SparesRoom r (f r)) : k.Spares i (i.onRoom id f) :=
  { spares_refl k i with
    roomIds := Installation.roomIds_onRoom hf
    rooms := by
      intro before r after split
      show ∃ r', (modifyFirst (·.id == id) f i.rooms)[before.length]? = some r' ∧ _
      rw [split]
      rcases getElem?_modifyFirst before r after with same | ⟨named, first, changed⟩
      · exact ⟨r, same, sparesRoom_refl k r, absurd rfl⟩
      · exact ⟨f r, changed, own r named, fun _ => first⟩
    rest := rfl }

theorem spares_onHotWater {f : HotWater → HotWater}
    (own : ∀ h, h.id = id → k.SparesHotWater h (f h)) : k.Spares i (i.onHotWater id f) :=
  { spares_refl k i with
    hotWater := by
      unfold Installation.onHotWater
      cases i.hotWater with
      | none => exact .none
      | some h =>
        refine .some ?_
        show k.SparesHotWater h (if h.id == id then f h else h)
        split
        case isTrue named => exact own h (eq_of_beq named)
        case isFalse => exact sparesHotWater_refl k h
    rest := rfl }

theorem spares_made (p : Patch) (i : Installation) : p.setting.Spares i (p.made i) := by
  cases p with
  | holiday h => exact { spares_refl .holiday i with holiday := absurd rfl, rest := rfl }
  | quickMode q => exact { spares_refl .quickMode i with quickMode := absurd rfl, rest := rfl }
  | zoneVeto id veto =>
    refine spares_onZone (fun _ => rfl) ?_
    rintro z rfl
    exact ⟨absurd rfl, fun _ => rfl, rfl⟩
  | zoneMode id mode =>
    refine spares_onZone (fun _ => rfl) ?_
    rintro z rfl
    exact ⟨fun _ => rfl, absurd rfl, rfl⟩
  | roomVeto id veto =>
    refine spares_onRoom (fun _ => rfl) ?_
    rintro r rfl
    exact ⟨absurd rfl, fun _ => rfl, fun _ => rfl, rfl⟩
  | roomMode id mode =>
    refine spares_onRoom (fun _ => rfl) ?_
    rintro r rfl
    exact ⟨fun _ => rfl, absurd rfl, fun _ => rfl, rfl⟩
  | roomTarget id target =>
    refine spares_onRoom (fun _ => rfl) ?_
    rintro r rfl
    exact ⟨fun _ => rfl, fun _ => rfl, absurd rfl, rfl⟩
  | hotWaterMode id mode =>
    refine spares_onHotWater ?_
    rintro h rfl
    exact ⟨absurd rfl, fun _ => rfl, rfl⟩
  | hotWaterTarget id target =>
    refine spares_onHotWater ?_
    rintro h rfl
    exact ⟨fun _ => rfl, absurd rfl, rfl⟩

end Setting

/-! ## Patches of a snapshot -/

namespace Snapshot

variable {s : Snapshot} {i : Installation} {p q : Patch}

theorem apply_of_in (loaded : s.installation = some i) (h : p.setting.In i) :
    s.apply p = (true, ⟨some (p.made i), s.version + 1⟩) := by
  unfold apply
  rw [loaded, Option.bind_some, Patch.applied?_eq_some h]

theorem apply_of_not_in (loaded : s.installation = some i) (h : ¬p.setting.In i) :
    s.apply p = (false, s) := by
  obtain ⟨id, hid, missing⟩ : ∃ id, p.setting.component? = some id ∧ ¬i.Has id := by
    simpa [Setting.In] using h
  unfold apply
  rw [loaded, Option.bind_some, Patch.applied?_eq_none hid missing]

theorem apply_of_unloaded (unloaded : s.installation = none) (p : Patch) :
    s.apply p = (false, s) := by
  unfold apply
  rw [unloaded]
  rfl

/-- What a patch did to a snapshot it found loaded. -/
theorem apply_cases (i : Installation) (version : Nat) (p : Patch) :
    (p.setting.In i ∧ (⟨some i, version⟩ : Snapshot).apply p = (true, ⟨some (p.made i), version + 1⟩)) ∨
      (¬p.setting.In i ∧ (⟨some i, version⟩ : Snapshot).apply p = (false, ⟨some i, version⟩)) := by
  by_cases h : p.setting.In i
  · exact .inl ⟨h, apply_of_in rfl h⟩
  · exact .inr ⟨h, apply_of_not_in rfl h⟩

/-- Two patches of different settings do the same in either order, with the same version and the
same answers. Of two patches of one setting the second leaves what it would have left alone. And a
patch changes nothing but its setting: ids stay in their order, and of the records with an id only
the first changes, in one field. -/
theorem patches_by_setting (i : Installation) (version : Nat) (p q : Patch) :
    let s : Snapshot := ⟨some i, version⟩
    (p.setting ≠ q.setting →
      ((s.apply p).2.apply q).2 = ((s.apply q).2.apply p).2 ∧
        (s.apply p).1 = ((s.apply q).2.apply p).1 ∧ ((s.apply p).2.apply q).1 = (s.apply q).1) ∧
      (p.setting = q.setting →
        ((s.apply p).2.apply q).2.installation = (s.apply q).2.installation) ∧
      ∃ j, (s.apply p).2.installation = some j ∧ p.setting.Spares i j := by
  intro s
  refine ⟨?_, ?_, ?_⟩
  · intro apart
    rcases apply_cases i version p with ⟨hp, first⟩ | ⟨hp, first⟩ <;>
      rcases apply_cases i version q with ⟨hq, second⟩ | ⟨hq, second⟩
    · have after : q.setting.In (p.made i) := (p.in_made i _).2 hq
      have after' : p.setting.In (q.made i) := (q.in_made i _).2 hp
      rw [first, second, apply_of_in rfl after, apply_of_in rfl after', Patch.made_comm apart]
      exact ⟨rfl, rfl, rfl⟩
    · have after : ¬q.setting.In (p.made i) := mt (p.in_made i _).1 hq
      rw [first, second, apply_of_not_in rfl after, first]
      exact ⟨rfl, rfl, rfl⟩
    · have after : ¬p.setting.In (q.made i) := mt (q.in_made i _).1 hp
      rw [first, second, apply_of_not_in rfl after]
      exact ⟨rfl, rfl, rfl⟩
    · rw [first, second, first]
      exact ⟨rfl, rfl, rfl⟩
  · intro same
    rcases apply_cases i version p with ⟨hp, first⟩ | ⟨hp, first⟩
    · have after : q.setting.In (p.made i) := (p.in_made i _).2 (same ▸ hp)
      rw [first, apply_of_in rfl after, apply_of_in rfl (same ▸ hp), Patch.made_made same]
    · rw [first]
  · rcases apply_cases i version p with ⟨_, made⟩ | ⟨_, refused⟩
    · rw [made]
      exact ⟨_, rfl, Setting.spares_made p i⟩
    · rw [refused]
      exact ⟨_, rfl, Setting.spares_refl _ i⟩

end Snapshot

end HeatingHub

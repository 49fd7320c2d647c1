import Rdk.Referenceframe.ModelConfig

namespace Rdk.Referenceframe

-- The identifiers a config declares: a link's or joint's id, or for a DH row its joint `id_j` and
-- its link `id`.
def ModelConfig.declaredIDs {R V O GC : Type} (cfg : ModelConfig R V O GC) : List String :=
  if cfg.kinParamType = "SVA" ∨ cfg.kinParamType = "" then
    cfg.links.map (·.id) ++ cfg.joints.map (·.id)
  else if cfg.kinParamType = "DH" then cfg.dhParams.flatMap fun dh => [dh.id ++ "_j", dh.id]
  else []

section Build

variable {R V O A P G GC : Type} {sm : Spatial R V O A P G GC}

-- Every frame of the map is stored under its own name.
def Named (t : Frames R V A P G) : Prop :=
  ∀ k f, t.lookup k = some f → f.name = k

theorem named_empty : Named (∅ : Frames R V A P G) := fun k f h => by
  simp [AList.lookup_empty] at h

theorem Named.insert {t : Frames R V A P G} {k : String} {f : Frame R V A P G} (ht : Named t)
    (hf : f.name = k) : Named (t.insert k f) := by
  intro k' f' h
  by_cases hk : k' = k
  · subst hk
    rw [AList.lookup_insert] at h
    cases h
    exact hf
  · rw [AList.lookup_insert_ne hk] at h
    exact ht k' f' h

theorem newFrame_ok {f f' : Frame R V A P G} (h : sm.newFrame f = .ok f') : f' = f := by
  unfold Spatial.newFrame at h
  split at h <;> cases h
  rfl

theorem toStaticFrame_name {link : LinkConfig V O} {name : String} {f : Frame R V A P G}
    (h : link.toStaticFrame sm name = .ok f) : f.name = name := by
  unfold LinkConfig.toStaticFrame at h
  split at h
  · cases h
  · rw [newFrame_ok h]

theorem toFrame_name {joint : JointConfig R V GC} {f : Frame R V A P G}
    (h : joint.toFrame sm = .ok f) : f.name = joint.id := by
  unfold JointConfig.toFrame at h
  split at h
  · rw [newFrame_ok h]
  · split at h
    · rw [newFrame_ok h]
    · cases h

theorem dhLinkFrame_name {dh : DHParamConfig R GC} {pose : P} {f : Frame R V A P G}
    (h : dhLinkFrame sm dh pose = .ok f) : f.name = dh.id := by
  unfold dhLinkFrame at h
  split at h <;> rw [newFrame_ok h]

-- A loop of the SVA branch adds exactly the declared ids, each frame under its own name.
theorem addFrames_ok {α : Type} {id parent : α → String}
    {toFrame : α → Except ParseError (Frame R V A P G)}
    (hname : ∀ x f, toFrame x = .ok f → f.name = id x) {xs : List α}
    {t t' : Frames R V A P G} {p p' : Parents}
    (h : addFrames id parent toFrame xs (t, p) = .ok (t', p')) (ht : Named t) :
    Named t' ∧ ∀ k, k ∈ t' ↔ k ∈ t ∨ k ∈ xs.map id := by
  induction xs generalizing t p with
  | nil =>
    cases h
    exact ⟨ht, by simp⟩
  | cons x xs ih =>
    obtain ⟨f, hf, h⟩ := bind_eq_ok.mp h
    obtain ⟨ht', hk⟩ := ih h (ht.insert (hname x f hf))
    refine ⟨ht', fun k => ?_⟩
    rw [hk, AList.mem_insert, List.map_cons, List.mem_cons]
    tauto

theorem addDHParams_ok {dhs : List (DHParamConfig R GC)} {t t' : Frames R V A P G}
    {p p' : Parents} (h : addDHParams sm dhs (t, p) = .ok (t', p')) (ht : Named t) :
    Named t' ∧ ∀ k, k ∈ t' ↔ k ∈ t ∨ k ∈ dhs.flatMap fun dh => [dh.id ++ "_j", dh.id] := by
  induction dhs generalizing t p with
  | nil =>
    cases h
    exact ⟨ht, by simp⟩
  | cons dh dhs ih =>
    obtain ⟨rf, hrf, h⟩ := bind_eq_ok.mp h
    obtain ⟨lf, hlf, h⟩ := bind_eq_ok.mp h
    obtain ⟨ht', hk⟩ := ih h ((ht.insert (by rw [newFrame_ok hrf])).insert (dhLinkFrame_name hlf))
    refine ⟨ht', fun k => ?_⟩
    rw [hk, AList.mem_insert, AList.mem_insert, List.flatMap_cons, List.mem_append]
    simp only [List.mem_cons, List.mem_singleton, List.not_mem_nil, or_false]
    tauto

-- The frames of the `switch` are exactly the declared ids, each under its own name.
theorem transforms_ok {cfg : ModelConfig R V O GC} {t : Frames R V A P G} {p : Parents}
    (h : cfg.transforms sm = .ok (t, p)) :
    (cfg.kinParamType = "SVA" ∨ cfg.kinParamType = "" ∨ cfg.kinParamType = "DH") ∧ Named t ∧
      ∀ k, k ∈ t ↔ k ∈ cfg.declaredIDs := by
  unfold ModelConfig.transforms at h
  unfold ModelConfig.declaredIDs
  split at h
  next hsva =>
    split at h
    · cases h
    split at h
    · cases h
    simp only [Except.bind] at h
    split at h
    · cases h
    next acc hacc =>
    obtain ⟨t₁, p₁⟩ := acc
    obtain ⟨ht₁, hk₁⟩ := addFrames_ok (fun _ _ => toStaticFrame_name) hacc named_empty
    obtain ⟨ht, hk⟩ := addFrames_ok (fun _ _ => toFrame_name) h ht₁
    refine ⟨hsva.elim .inl (.inr ∘ .inl), ht, fun k => ?_⟩
    rw [if_pos hsva, hk, hk₁, List.mem_append]
    simp [AList.not_mem_empty]
  next hsva =>
    split at h
    next hdh =>
      obtain ⟨ht, hk⟩ := addDHParams_ok h named_empty
      refine ⟨.inr (.inr hdh), ht, fun k => ?_⟩
      rw [if_neg hsva, if_pos hdh, hk]
      simp [AList.not_mem_empty]
    · cases h

end Build

section Declarations

-- A frame a config declares: its identifier, its parent, and the frame `ParseConfig` builds for it.
structure Declaration (R V A P G : Type) where
  id : String
  parent : String
  frame : Except ParseError (Frame R V A P G)

variable {R V O A P G GC : Type}

-- The two frames a DH row declares: its joint under the row's parent, then its link under the
-- joint.
def dhDeclarations (sm : Spatial R V O A P G GC) (dh : DHParamConfig R GC) :
    List (Declaration R V A P G) :=
  [⟨dh.id ++ "_j", dh.parent, sm.newFrame ⟨dh.id ++ "_j", .rotational sm.zAxis
      ⟨sm.degToRad dh.min, sm.degToRad dh.max⟩, none⟩⟩,
    ⟨dh.id, dh.id ++ "_j", dhLinkFrame sm dh (sm.newPoseFromDH dh.a dh.d (sm.degToRad dh.alpha))⟩]

-- The declarations in the order the loops of `ParseConfig` assign them to its two maps: the
-- links, then the joints; or the rows of a DH config.
def ModelConfig.declarations (sm : Spatial R V O A P G GC) (cfg : ModelConfig R V O GC) :
    List (Declaration R V A P G) :=
  if cfg.kinParamType = "SVA" ∨ cfg.kinParamType = "" then
    cfg.links.map (fun link => ⟨link.id, link.parent, link.toStaticFrame sm link.id⟩) ++
      cfg.joints.map fun joint => ⟨joint.id, joint.parent, joint.toFrame sm⟩
  else if cfg.kinParamType = "DH" then cfg.dhParams.flatMap (dhDeclarations sm)
  else []

-- The two maps after the assignments `ds`, one after the other, starting from `acc`.
def assignAll : List (Declaration R V A P G) → Frames R V A P G × Parents →
    Except ParseError (Frames R V A P G × Parents)
  | [], acc => .ok acc
  | d :: rest, (transforms, parentMap) => do
    let f ← d.frame
    assignAll rest (transforms.insert d.id f, parentMap.insert d.id d.parent)

-- The declaration of `k` that comes last.
def lastDeclaration (ds : List (Declaration R V A P G)) (k : String) :
    Option (Declaration R V A P G) :=
  ds.reverse.find? (·.id = k)

theorem lastDeclaration_cons (d : Declaration R V A P G) (ds : List (Declaration R V A P G))
    (k : String) :
    lastDeclaration (d :: ds) k = (lastDeclaration ds k).or (if d.id = k then some d else none) := by
  simp only [lastDeclaration, List.reverse_cons, List.find?_append, List.find?_singleton,
    decide_eq_true_eq]

theorem assignAll_append (ds ds' : List (Declaration R V A P G))
    (acc : Frames R V A P G × Parents) :
    assignAll (ds ++ ds') acc = (assignAll ds acc).bind (assignAll ds') := by
  induction ds generalizing acc with
  | nil => rfl
  | cons d ds ih =>
    obtain ⟨t, p⟩ := acc
    show assignAll (d :: (ds ++ ds')) (t, p) = _
    cases hf : d.frame <;> simp only [assignAll, hf, bind, Except.bind, ih]

theorem addFrames_eq_assignAll {α : Type} (id parent : α → String)
    (toFrame : α → Except ParseError (Frame R V A P G)) (xs : List α) :
    addFrames id parent toFrame xs =
      assignAll (xs.map fun x => ⟨id x, parent x, toFrame x⟩) := by
  funext acc
  induction xs generalizing acc with
  | nil => rfl
  | cons x xs ih =>
    obtain ⟨t, p⟩ := acc
    simp only [addFrames, assignAll, List.map_cons, ih]

theorem addDHParams_eq_assignAll (sm : Spatial R V O A P G GC) (dhs : List (DHParamConfig R GC))
    (acc : Frames R V A P G × Parents) :
    addDHParams sm dhs acc = assignAll (dhs.flatMap (dhDeclarations sm)) acc := by
  induction dhs generalizing acc with
  | nil => rfl
  | cons dh dhs ih =>
    obtain ⟨t, p⟩ := acc
    rw [List.flatMap_cons, assignAll_append]
    -- the joint and the link are built before either is assigned
    simp only [addDHParams, dhDeclarations, assignAll, ih]
    cases sm.newFrame ⟨dh.id ++ "_j", .rotational sm.zAxis
      ⟨sm.degToRad dh.min, sm.degToRad dh.max⟩, none⟩ <;>
      cases dhLinkFrame sm dh (sm.newPoseFromDH dh.a dh.d (sm.degToRad dh.alpha)) <;> rfl

-- The maps the `switch` of `ParseConfig` builds are those of its declarations, in order.
theorem transforms_eq_assignAll {sm : Spatial R V O A P G GC} {cfg : ModelConfig R V O GC}
    {t : Frames R V A P G} {p : Parents} (h : cfg.transforms sm = .ok (t, p)) :
    assignAll (cfg.declarations sm) (∅, ∅) = .ok (t, p) := by
  unfold ModelConfig.transforms at h
  unfold ModelConfig.declarations
  split at h
  next hsva =>
    split at h
    · cases h
    split at h
    · cases h
    rw [if_pos hsva, assignAll_append, ← addFrames_eq_assignAll, ← addFrames_eq_assignAll]
    exact h
  next hsva =>
    split at h
    next hdh =>
      rw [if_neg hsva, if_pos hdh, ← addDHParams_eq_assignAll]
      exact h
    · cases h

-- After the assignments, a key holds the frame and the parent of its last declaration, or, when
-- none declares it, what it held before.
theorem assignAll_lookup {ds : List (Declaration R V A P G)} {t₀ t : Frames R V A P G}
    {p₀ p : Parents} (h : assignAll ds (t₀, p₀) = .ok (t, p)) (k : String) :
    (∀ d, lastDeclaration ds k = some d →
      ∃ f, d.frame = .ok f ∧ t.lookup k = some f ∧ p.lookup k = some d.parent) ∧
    (lastDeclaration ds k = none → t.lookup k = t₀.lookup k ∧ p.lookup k = p₀.lookup k) := by
  induction ds generalizing t₀ p₀ with
  | nil =>
    cases h
    exact ⟨fun _ h => absurd h (by simp [lastDeclaration]), fun _ => ⟨rfl, rfl⟩⟩
  | cons d ds ih =>
    obtain ⟨f, hf, h⟩ := bind_eq_ok.mp h
    obtain ⟨hsome, hnone⟩ := ih h
    rw [lastDeclaration_cons]
    cases hlast : lastDeclaration ds k with
    | some d' =>
      exact ⟨fun d'' hd => hsome d'' (hlast.trans hd), nofun⟩
    | none =>
      obtain ⟨ht, hp⟩ := hnone hlast
      by_cases hk : d.id = k
      · -- the declaration just assigned is the last one of `k`
        subst hk
        refine ⟨fun d'' hd => ?_, by simp⟩
        simp only [Option.none_or, if_true, Option.some.injEq] at hd
        subst hd
        exact ⟨f, hf, by rw [ht, AList.lookup_insert], by rw [hp, AList.lookup_insert]⟩
      · refine ⟨by simp [hk], fun _ => ?_⟩
        rw [ht, hp, AList.lookup_insert_ne (Ne.symm hk), AList.lookup_insert_ne (Ne.symm hk)]
        exact ⟨rfl, rfl⟩

end Declarations

section Order

variable {R V A P G : Type} {t : Frames R V A P G} {p : Parents}

-- `frames` hangs from `root` in the parent map: the first frame's parent is `root`, and every
-- later frame's parent is the frame before it.
def IsChain (parentMap : Parents) : String → List (Frame R V A P G) → Prop
  | _, [] => True
  | root, f :: rest => parentMap.lookup f.name = some root ∧ IsChain parentMap f.name rest

theorem isChain_append_singleton {root : String} {l : List (Frame R V A P G)}
    {f : Frame R V A P G} :
    IsChain p root (l ++ [f]) ↔
      IsChain p root l ∧ p.lookup f.name = some ((l.getLast?.map Frame.name).getD root) := by
  induction l generalizing root with
  | nil => simp [IsChain]
  | cons g l ih =>
    have hl : ((g :: l).getLast?.map Frame.name).getD root =
        (l.getLast?.map Frame.name).getD g.name := by
      cases l with
      | nil => rfl
      | cons a l =>
        rw [List.getLast?_cons_cons]
        cases h : (a :: l).getLast? with
        | none => simp at h
        | some x => rfl
    rw [List.cons_append, IsChain, IsChain, ih, hl, and_assoc]

-- What a walk from `name`, having met `seen` on its way, returns.
structure Walked (t : Frames R V A P G) (p : Parents) (finish name : String) (seen : List String)
    (l : List (Frame R V A P G)) : Prop where
  chain : IsChain p finish l
  last : ∃ f, l.getLast? = some f ∧ f.name = name
  nodup : (l.map Frame.name).Nodup
  fresh : ∀ g ∈ l, g.name ∉ seen
  mem : ∀ g ∈ l, t.lookup g.name = some g
  below : ∀ g ∈ l, g.name = name ∨ g.name ≠ finish

theorem walkToRoot_ok (ht : Named t) {finish : String} {fuel : Nat} {name : String}
    {seen : List String} {l : List (Frame R V A P G)} (hs : name ∉ seen)
    (h : walkToRoot t p finish fuel name seen = .ok l) : Walked t p finish name seen l := by
  induction fuel generalizing name seen l with
  | zero => cases h
  | succ fuel ih =>
    unfold walkToRoot at h
    split at h
    · cases h
    · cases h
    next f parent hf hp =>
    have hfn : f.name = name := ht name f hf
    split at h
    next hfin =>
      cases h
      refine ⟨⟨by rw [hfn, hp, hfin], trivial⟩, ⟨f, rfl, hfn⟩, by simp, ?_, ?_, ?_⟩ <;>
        intro g hg <;> rw [List.mem_singleton.mp hg, hfn]
      · exact hs
      · exact hf
      · exact .inl rfl
    split at h
    · cases h
    next hfin hcyc =>
    cases hw : walkToRoot t p finish fuel parent (name :: seen) with
    | error e => rw [hw] at h; cases h
    | ok l' =>
      rw [hw] at h
      cases h
      have hl := ih hcyc hw
      obtain ⟨g, hg, hgn⟩ := hl.last
      refine ⟨isChain_append_singleton.mpr ⟨hl.chain, by rw [hg, hfn, hp]; simp [hgn]⟩,
        ⟨f, by simp, hfn⟩, ?_, fun g hg => ?_, fun g hg => ?_, fun g hg => ?_⟩
      · rw [List.map_append, List.nodup_append]
        refine ⟨hl.nodup, by simp, fun a ha hb => ?_⟩
        simp only [List.map_cons, List.map_nil, List.mem_singleton] at hb
        obtain ⟨g, hg, rfl⟩ := List.mem_map.mp ha
        exact hl.fresh g hg (by simp [hb, hfn])
      · rcases List.mem_append.mp hg with hg | hg
        · exact fun h => hl.fresh g hg (List.mem_cons_of_mem _ h)
        · rw [List.mem_singleton.mp hg, hfn]
          exact hs
      · rcases List.mem_append.mp hg with hg | hg
        · exact hl.mem g hg
        · rw [List.mem_singleton.mp hg, hfn, hf]
      · rcases List.mem_append.mp hg with hg | hg
        · exact .inr ((hl.below g hg).elim (· ▸ hfin) id)
        · exact .inl (by rw [List.mem_singleton.mp hg, hfn])

-- A sorted model lists every frame of the map once, as a chain from `start` up to `finish`.
theorem sortTransforms_ok (ht : Named t) {start finish : String} {l : List (Frame R V A P G)}
    (h : sortTransforms t p start finish = .ok l) :
    Walked t p finish start [] l ∧ ∀ k, k ∈ t ↔ k ∈ l.map Frame.name := by
  obtain ⟨l₀, hw, h⟩ := bind_eq_ok.mp h
  split at h
  next hlen =>
    cases h
    have hl := walkToRoot_ok ht (List.not_mem_nil _) hw
    have hsub : l.map Frame.name ⊆ t.keys := fun k hk => by
      obtain ⟨g, hg, rfl⟩ := List.mem_map.mp hk
      exact AList.mem_keys.mp (AList.lookup_isSome.mp (by rw [hl.mem g hg]; rfl))
    have hperm := (List.subperm_of_subset hl.nodup hsub).perm_of_length_le
      (by simp [AList.keys, List.keys, hlen])
    exact ⟨hl, fun k => AList.mem_keys.trans hperm.mem_iff.symm⟩
  · cases h

theorem not_mem_foldl_erase {α : Type} (key : α → String) {q : String} {L : List α}
    {s : Frames R V A P G} (hq : q ∉ s) : q ∉ L.foldl (fun s e => s.erase (key e)) s := by
  induction L generalizing s with
  | nil => exact hq
  | cons e L ih => exact ih fun h => hq (AList.mem_erase.mp h).2

theorem not_mem_foldl_erase_of_mem {α : Type} (key : α → String) {e : α} {L : List α}
    (s : Frames R V A P G) (he : e ∈ L) : key e ∉ L.foldl (fun s e => s.erase (key e)) s := by
  induction L generalizing s with
  | nil => cases he
  | cons e' L ih =>
    rcases List.mem_cons.mp he with rfl | he
    · rw [List.foldl_cons]
      exact not_mem_foldl_erase key (AList.lookup_eq_none.mp (AList.lookup_erase _ _))
    · exact ih _ he

-- A frame some frame names as its parent is no end effector.
theorem not_mem_endEffectors {k : String} {f : Frame R V A P G} {q : String}
    (hk : ⟨k, f⟩ ∈ t.entries) (hq : p.lookup f.name = some q) : q ∉ endEffectors t p := by
  have h := not_mem_foldl_erase_of_mem
    (fun e : (Σ _ : String, Frame R V A P G) => (p.lookup e.2.name).getD "") t hk
  simpa [endEffectors, hq] using h

end Order

section

variable {R V O A P G GC : Type} {sm : Spatial R V O A P G GC} {cfg : ModelConfig R V O GC}
  {modelName : String} {m : Model R V A P G}

theorem parseConfig_ok (h : cfg.parseConfig sm modelName = .ok m) :
    ∃ t p ee f, cfg.transforms sm = .ok (t, p) ∧ (endEffectors t p).entries = [⟨ee, f⟩] ∧
      sortTransforms t p ee world = .ok m.ordTransforms := by
  obtain ⟨⟨t, p⟩, ht, h⟩ := bind_eq_ok.mp h
  refine ⟨t, p, ?_⟩
  dsimp only at h
  split at h
  · cases h
  next ee f he =>
    obtain ⟨l, hl, h⟩ := bind_eq_ok.mp h
    cases h
    exact ⟨ee, f, ht, he, hl⟩
  · cases h

-- A parsed model lists every declared identifier once, as a parent chain from world down to the
-- only frame that is no frame's parent; none is `world`. An identifier declared twice keeps the
-- frame and the parent of its last declaration.
theorem parseConfig_ordTransforms (h : cfg.parseConfig sm modelName = .ok m) :
    (cfg.kinParamType = "SVA" ∨ cfg.kinParamType = "" ∨ cfg.kinParamType = "DH") ∧
    (∀ id ∈ cfg.declaredIDs, id ≠ world) ∧
    (m.ordTransforms.map Frame.name).Nodup ∧
    (∀ id, id ∈ cfg.declaredIDs ↔ id ∈ m.ordTransforms.map Frame.name) ∧
    ∃ t p, cfg.transforms sm = .ok (t, p) ∧ IsChain p world m.ordTransforms ∧
      (endEffectors t p).keys = (m.ordTransforms.getLast?.map Frame.name).toList ∧
      (∀ id, p.lookup id = (lastDeclaration (cfg.declarations sm) id).map Declaration.parent) ∧
      ∀ f ∈ m.ordTransforms,
        ∃ d, lastDeclaration (cfg.declarations sm) f.name = some d ∧ d.frame = .ok f := by
  obtain ⟨t, p, ee, f, ht, he, hs⟩ := parseConfig_ok h
  obtain ⟨htype, hnamed, hkeys⟩ := transforms_ok ht
  obtain ⟨hw, hmem⟩ := sortTransforms_ok hnamed hs
  have hlookup := assignAll_lookup (transforms_eq_assignAll ht)
  have hids : ∀ id, id ∈ cfg.declaredIDs ↔ id ∈ m.ordTransforms.map Frame.name :=
    fun id => (hkeys id).symm.trans (hmem id)
  have hee : ee ∈ endEffectors t p := AList.mem_keys.mpr (by simp [AList.keys, he])
  obtain ⟨g, hg, hgn⟩ := hw.last
  refine ⟨htype, fun id hid hworld => ?_, hw.nodup, hids, t, p, ht, hw.chain, ?_,
    fun id => ?_, fun f hf => ?_⟩
  · obtain ⟨g', hg', rfl⟩ := List.mem_map.mp ((hids _).mp hid)
    have hstart : g'.name = ee := (hw.below g' hg').resolve_right (not_not.mpr hworld)
    obtain ⟨first, rest, hfirst⟩ := List.exists_cons_of_ne_nil (List.ne_nil_of_mem hg')
    have hchain := hw.chain
    rw [hfirst] at hchain
    have hentry : ⟨first.name, first⟩ ∈ t.entries :=
      AList.mem_lookup_iff.mp (hw.mem first (by simp [hfirst]))
    exact not_mem_endEffectors hentry hchain.1 (hworld ▸ hstart ▸ hee)
  · simp [AList.keys, he, hg, hgn]
  · -- the parent map holds the parent of each identifier's last declaration
    cases hd : lastDeclaration (cfg.declarations sm) id with
    | some d =>
      obtain ⟨-, -, -, hp⟩ := (hlookup id).1 d hd
      simp [hp]
    | none => simp [((hlookup id).2 hd).2]
  · -- the frame the model lists under a name is the one its last declaration built
    have hf' := hw.mem f hf
    cases hd : lastDeclaration (cfg.declarations sm) f.name with
    | some d =>
      obtain ⟨f', hf'', hlook, -⟩ := (hlookup f.name).1 d hd
      exact ⟨d, rfl, hf''.trans (congrArg _ (Option.some.inj (hlook.symm.trans hf')))⟩
    | none => simp [((hlookup f.name).2 hd).1] at hf'

end

end Rdk.Referenceframe

namespace Rdk.Referenceframe

-- Collaborators that accept everything, on configs whose numbers, vectors and poses carry no
-- data; a geometry config is `true` when it parses and `false` when it is malformed.
def acceptingSpatial : Spatial Unit Unit Unit Unit Unit Unit Bool where
  degToRad := id
  axisParseConfig _ := ()
  zAxis := ()
  newPoseFromDH _ _ _ := ()
  linkPose _ _ := .ok ()
  geometryParseConfig
    | some true => .ok ()
    | _ => .error "malformed geometry"
  frameError _ := none

-- One DH row under world, with a malformed geometry.
def dhConfig : ModelConfig Unit Unit Unit Bool :=
  ⟨"dh", "DH", [], [], [⟨"link", world, (), (), (), (), (), some false⟩]⟩

def dhModel : Model Unit Unit Unit Unit Unit :=
  ⟨"dh", [⟨"link_j", .rotational () ⟨(), ()⟩, none⟩, ⟨"link", .static (), none⟩]⟩

theorem parseConfig_dh_chain :
    dhConfig.parseConfig acceptingSpatial "" = .ok dhModel ∧
    (dhConfig.kinParamType = "SVA" ∨ dhConfig.kinParamType = "" ∨
      dhConfig.kinParamType = "DH") ∧
    (∀ id ∈ dhConfig.declaredIDs, id ≠ world) ∧
    (dhModel.ordTransforms.map Frame.name).Nodup ∧
    (∀ id, id ∈ dhConfig.declaredIDs ↔ id ∈ dhModel.ordTransforms.map Frame.name) ∧
    ∃ t p, dhConfig.transforms acceptingSpatial = .ok (t, p) ∧
      IsChain p world dhModel.ordTransforms ∧
      (endEffectors t p).keys = (dhModel.ordTransforms.getLast?.map Frame.name).toList ∧
      (∀ id, p.lookup id =
        (lastDeclaration (dhConfig.declarations acceptingSpatial) id).map Declaration.parent) ∧
      ∀ f ∈ dhModel.ordTransforms, ∃ d,
        lastDeclaration (dhConfig.declarations acceptingSpatial) f.name = some d ∧ d.frame = .ok f :=
  have h : dhConfig.parseConfig acceptingSpatial "" = .ok dhModel := rfl
  ⟨h, parseConfig_ordTransforms h⟩

-- A link and a revolute joint that share the id `base`, both under world.
def sharedIDConfig : ModelConfig Unit Unit Unit Bool :=
  ⟨"arm", "SVA", [⟨"base", (), none, world⟩], [⟨"base", revoluteJoint, world, (), (), (), none⟩],
    []⟩

-- The joint replaces the link in both maps: the config is accepted, and the link's static frame
-- is not in the model.
theorem parseConfig_shared_id :
    sharedIDConfig.parseConfig acceptingSpatial "" =
      .ok ⟨"arm", [⟨"base", .rotational () ⟨(), ()⟩, none⟩]⟩ ∧
    ¬ sharedIDConfig.declaredIDs.Nodup :=
  ⟨rfl, by decide⟩

-- A prismatic joint declaring a geometry that parses.
def sliderConfig : ModelConfig Unit Unit Unit Bool :=
  ⟨"slider", "SVA", [], [⟨"slider", prismaticJoint, world, (), (), (), some true⟩], []⟩

-- `JointConfig.ToFrame` never reads the prismatic joint's geometry, and the DH branch builds the
-- link of `dhConfig` without its malformed geometry instead of failing.
theorem parseConfig_drops_geometry :
    acceptingSpatial.geometryParseConfig (some true) = .ok () ∧
    sliderConfig.parseConfig acceptingSpatial "" =
      .ok ⟨"slider", [⟨"slider", .translational () ⟨(), ()⟩, none⟩]⟩ ∧
    acceptingSpatial.geometryParseConfig (some false) = .error "malformed geometry" ∧
    dhConfig.parseConfig acceptingSpatial "" = .ok dhModel :=
  ⟨rfl, rfl, rfl, rfl⟩

end Rdk.Referenceframe

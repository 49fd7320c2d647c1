import Rdk.Referenceframe.Parse

namespace Rdk.Referenceframe

section

variable {R V O A P G GC : Type} {sm : Spatial R V O A P G GC}

-- The DH loop leaves alone every key no row of it declares.
theorem addDHParams_lookup_of_not_mem {dhs : List (DHParamConfig R GC)}
    {t t' : Frames R V A P G} {p p' : Parents} (h : addDHParams sm dhs (t, p) = .ok (t', p'))
    {k : String} (hk : k ∉ dhs.flatMap fun dh => [dh.id ++ "_j", dh.id]) :
    t'.lookup k = t.lookup k := by
  induction dhs generalizing t p with
  | nil => cases h; rfl
  | cons dh dhs ih =>
    obtain ⟨rf, -, h⟩ := bind_eq_ok.mp h
    obtain ⟨lf, -, h⟩ := bind_eq_ok.mp h
    simp only [List.flatMap_cons, List.mem_append, List.mem_cons, List.mem_singleton,
      List.not_mem_nil, or_false, not_or] at hk
    rw [ih h hk.2, AList.lookup_insert_ne hk.1.2, AList.lookup_insert_ne hk.1.1]

-- When no identifier is declared twice, each row's link frame stays under the row's id.
theorem addDHParams_lookup {dhs : List (DHParamConfig R GC)} {t t' : Frames R V A P G}
    {p p' : Parents} (h : addDHParams sm dhs (t, p) = .ok (t', p'))
    (hnodup : (dhs.flatMap fun dh => [dh.id ++ "_j", dh.id]).Nodup) {dh : DHParamConfig R GC}
    (hmem : dh ∈ dhs) :
    ∃ f, dhLinkFrame sm dh (sm.newPoseFromDH dh.a dh.d (sm.degToRad dh.alpha)) = .ok f ∧
      t'.lookup dh.id = some f := by
  induction dhs generalizing t p with
  | nil => cases hmem
  | cons d dhs ih =>
    obtain ⟨rf, -, h⟩ := bind_eq_ok.mp h
    obtain ⟨lf, hlf, h⟩ := bind_eq_ok.mp h
    rw [List.flatMap_cons, List.nodup_append] at hnodup
    rcases List.mem_cons.mp hmem with rfl | hmem
    · -- the later rows declare other identifiers, so the link inserted last is the row's
      refine ⟨lf, hlf, ?_⟩
      rw [addDHParams_lookup_of_not_mem h fun hk => hnodup.2.2 (by simp) hk, AList.lookup_insert]
    · exact ih h hnodup.2.1 hmem

theorem dhLinkFrame_geometry {dh : DHParamConfig R GC} {pose : P} {f : Frame R V A P G} {gc : G}
    (hg : sm.geometryParseConfig dh.geometry = .ok gc) (h : dhLinkFrame sm dh pose = .ok f) :
    f.geometry = some gc := by
  simp only [dhLinkFrame, hg] at h
  rw [newFrame_ok h]

variable {cfg : ModelConfig R V O GC} {modelName : String} {m : Model R V A P G}

-- In a DH config that declares every identifier once, a row whose geometry parses has it on its
-- link frame in the model.
theorem parseConfig_dh_geometry (h : cfg.parseConfig sm modelName = .ok m)
    (hdh : cfg.kinParamType = "DH") (hnodup : cfg.declaredIDs.Nodup) {dh : DHParamConfig R GC}
    (hmem : dh ∈ cfg.dhParams) {gc : G} (hg : sm.geometryParseConfig dh.geometry = .ok gc) :
    ∃ f ∈ m.ordTransforms, f.name = dh.id ∧ f.geometry = some gc := by
  obtain ⟨t, p, ee, f, ht, -, hs⟩ := parseConfig_ok h
  obtain ⟨-, hnamed, -⟩ := transforms_ok ht
  obtain ⟨hw, hkeys⟩ := sortTransforms_ok hnamed hs
  have hsva : ¬ (cfg.kinParamType = "SVA" ∨ cfg.kinParamType = "") := by rw [hdh]; decide
  rw [ModelConfig.transforms, if_neg hsva, if_pos hdh] at ht
  rw [ModelConfig.declaredIDs, if_neg hsva, if_pos hdh] at hnodup
  obtain ⟨lf, hlf, hlook⟩ := addDHParams_lookup ht hnodup hmem
  -- every frame of the map is in the model, under its name
  obtain ⟨g, hg', hgn⟩ := List.mem_map.mp
    ((hkeys dh.id).mp (AList.lookup_isSome.mp (by rw [hlook]; rfl)))
  have hgl : g = lf := Option.some.inj ((hw.mem g hg').symm.trans (hgn ▸ hlook))
  exact ⟨g, hg', hgn, hgl ▸ dhLinkFrame_geometry hg hlf⟩

-- A DH joint's identifier, the row's with `_j` added, is neither the row's nor world.
-- `delete` on a Go map: its entries without the key.
theorem entries_erase {β : String → Type} (a : String) (s : AList β) :
    (s.erase a).entries = s.entries.kerase a := rfl

theorem dh_ids_ne (id : String) : id ≠ id ++ "_j" ∧ id ++ "_j" ≠ world := by
  refine ⟨fun h => ?_, fun h => ?_⟩
  · have hlen : "_j".length = 2 := rfl
    have := congrArg String.length h
    simp only [String.length_append, hlen] at this
    omega
  · have := congrArg (fun s : String => s.data.getLast?) h
    simp [world] at this

-- A DH row under world that declares a geometry which does not parse: `ToDHFrames` fails with the
-- parse error, while `ParseConfig` on the config of that one row succeeds, with a link frame that
-- has no geometry. `ParseConfig`'s DH branch falls back to the frame without geometry; the link is
-- the only end effector, and the walk from it reaches world through the joint.
theorem toDHFrames_error_parseConfig_ok {dh : DHParamConfig R GC} {gc : GC} {e : String}
    (name : String) (hg : dh.geometry = some gc) (he : sm.geometryParseConfig dh.geometry = .error e)
    (hparent : dh.parent = world) (hid : dh.id ≠ world)
    (hj : sm.frameError ⟨dh.id ++ "_j", .rotational sm.zAxis
      ⟨sm.degToRad dh.min, sm.degToRad dh.max⟩, none⟩ = none)
    (hl : sm.frameError ⟨dh.id, .static (sm.newPoseFromDH dh.a dh.d (sm.degToRad dh.alpha)),
      none⟩ = none) :
    dh.toDHFrames sm = .error (.collaborator e) ∧
    (ModelConfig.mk name "DH" [] [] [dh]).parseConfig sm "" =
      .ok ⟨name, [⟨dh.id ++ "_j", .rotational sm.zAxis ⟨sm.degToRad dh.min, sm.degToRad dh.max⟩,
        none⟩, ⟨dh.id, .static (sm.newPoseFromDH dh.a dh.d (sm.degToRad dh.alpha)), none⟩]⟩ := by
  obtain ⟨h1, h2⟩ := dh_ids_ne dh.id
  constructor
  · rw [hg] at he
    simp [DHParamConfig.toDHFrames, Spatial.newFrame, hj, hg, he, bind, Except.bind]
  · simp [ModelConfig.parseConfig, ModelConfig.transforms, addDHParams, dhLinkFrame,
      Spatial.newFrame, he, hj, hl, bind, Except.bind, endEffectors, AList.insert,
      AList.singleton_entries, entries_erase, List.kerase_cons_ne, h1, h1.symm, h2, h2.symm, hid,
      hid.symm, sortTransforms, walkToRoot, AList.lookup, hparent, Except.map]
    rfl

end

theorem toDHFrames_malformed_geometry :
    let dh : DHParamConfig Unit Bool := ⟨"link", world, (), (), (), (), (), some false⟩
    (dh.geometry = some false ∧ acceptingSpatial.geometryParseConfig dh.geometry =
      .error "malformed geometry" ∧ dh.parent = world ∧ dh.id ≠ world) ∧
    dh.toDHFrames acceptingSpatial = .error (.collaborator "malformed geometry") ∧
    dhConfig.parseConfig acceptingSpatial "" = .ok dhModel :=
  ⟨⟨rfl, rfl, rfl, by decide⟩,
    toDHFrames_error_parseConfig_ok "dh" rfl rfl rfl (by decide) rfl rfl⟩

-- One DH row under world, with a geometry that parses.
def dhGeometryConfig : ModelConfig Unit Unit Unit Bool :=
  ⟨"dh", "DH", [], [], [⟨"link", world, (), (), (), (), (), some true⟩]⟩

def dhGeometryModel : Model Unit Unit Unit Unit Unit :=
  ⟨"dh", [⟨"link_j", .rotational () ⟨(), ()⟩, none⟩, ⟨"link", .static (), some ()⟩]⟩

theorem parseConfig_dh_geometry_link :
    dhGeometryConfig.parseConfig acceptingSpatial "" = .ok dhGeometryModel ∧
    dhGeometryConfig.kinParamType = "DH" ∧ dhGeometryConfig.declaredIDs.Nodup ∧
    ∃ dh ∈ dhGeometryConfig.dhParams, acceptingSpatial.geometryParseConfig dh.geometry = .ok () ∧
      ∃ f ∈ dhGeometryModel.ordTransforms, f.name = dh.id ∧ f.geometry = some () :=
  have h : dhGeometryConfig.parseConfig acceptingSpatial "" = .ok dhGeometryModel := rfl
  ⟨h, rfl, by decide, _, List.mem_singleton_self _, rfl,
    parseConfig_dh_geometry h rfl (by decide) (List.mem_singleton_self _) rfl⟩

end Rdk.Referenceframe

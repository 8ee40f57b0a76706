import IEDSyncTogether.Base.Preorder
import IEDSyncTogether.Capture.SceneScan

/-!
# The run of a scene scan

The recursion of `VisitIEDObjects` without fuel: a relation between the objects still to be
visited, the progress before them and the progress after them. The scan of every scene
returns, has entered every loaded node once and in depth-first preorder, and has captured the
nodes whose names carry a form with an identity.
-/

namespace IEDSyncTogether

open Base

namespace PlayerScene

/-- The calls of `VisitIEDObjects` on some objects, one after the other, return with this
progress. -/
inductive Returns (scene : PlayerScene) (game : GameData) (slottedForms : Vector FormID 19) :
    List (Option (Fin scene.count)) → scene.Visit → scene.Visit → Prop where
  | done {progress} : Returns scene game slottedForms [] progress progress
  | null {rest progress final} (others : Returns scene game slottedForms rest progress final) :
      Returns scene game slottedForms (none :: rest) progress final
  | visited {object rest progress final} (seen : object ∈ progress.visited)
      (others : Returns scene game slottedForms rest progress final) :
      Returns scene game slottedForms (some object :: rest) progress final
  | entered {object rest progress middle final} (fresh : object ∉ progress.visited)
      (below : Returns scene game slottedForms (scene.object object).children
        ⟨progress.visited ++ [object],
          progress.out ++ (scene.captureObject game slottedForms object).toList⟩ middle)
      (others : Returns scene game slottedForms rest middle final) :
      Returns scene game slottedForms (some object :: rest) progress final

variable {scene : PlayerScene} {game : GameData} {slottedForms : Vector FormID 19}
  {pending : List (Option (Fin scene.count))} {progress final : scene.Visit}

/-- The visited nodes are those of a walk over the non-null objects. -/
theorem Returns.walks (returns : scene.Returns game slottedForms pending progress final) :
    Walks scene.childNodes (pending.filterMap id) progress.visited final.visited := by
  induction returns with
  | done => exact .done
  | null _ ih => exact ih
  | visited seen _ ih => exact .skip seen ih
  | entered fresh _ _ below others => exact .enter fresh below others

/-- What is captured belongs to the visited nodes. -/
theorem Returns.out_eq (returns : scene.Returns game slottedForms pending progress final)
    (belongs : progress.out =
      progress.visited.filterMap (scene.captureObject game slottedForms)) :
    final.out = final.visited.filterMap (scene.captureObject game slottedForms) := by
  induction returns with
  | done => exact belongs
  | null _ ih => exact ih belongs
  | visited _ _ ih => exact ih belongs
  | @entered object rest progress middle final fresh _ _ below others =>
      refine others (below ?_)
      rw [List.filterMap_append, belongs]
      cases captured : scene.captureObject game slottedForms object <;> simp [captured]

theorem Returns.append_null {nulls : List (Option (Fin scene.count))}
    (empty : ∀ object ∈ nulls, object = none)
    (returns : scene.Returns game slottedForms pending progress final) :
    scene.Returns game slottedForms (nulls ++ pending) progress final := by
  induction nulls with
  | nil => exact returns
  | cons object nulls ih =>
      obtain rfl := empty object List.mem_cons_self
      exact .null (ih fun other member => empty other (List.mem_cons_of_mem _ member))

/-- Where the walk returns, the calls return. -/
theorem exists_returns {nodes visited last : List (Fin scene.count)}
    (walk : Walks scene.childNodes nodes visited last) (same : pending.filterMap id = nodes)
    (start : progress.visited = visited) :
    ∃ final, scene.Returns game slottedForms pending progress final ∧ final.visited = last := by
  induction walk generalizing pending progress with
  | done =>
      have empty : ∀ object ∈ pending, object = none := by
        simpa [List.filterMap_eq_nil_iff] using same
      have returns := Returns.append_null empty
        (@Returns.done scene game slottedForms progress)
      rw [List.append_nil] at returns
      exact ⟨progress, returns, start⟩
  | skip seen _ ih =>
      obtain ⟨nulls, object, rest, rfl, empty, rfl, others⟩ := List.filterMap_eq_cons_iff.mp same
      obtain ⟨final, returns, visited⟩ := ih others start
      exact ⟨final, .append_null empty (.visited (start ▸ seen) returns), visited⟩
  | @enter node _ visited middle last fresh _ _ ihBelow ihOthers =>
      obtain ⟨nulls, object, rest, rfl, empty, rfl, others⟩ := List.filterMap_eq_cons_iff.mp same
      obtain ⟨between, below, reached⟩ := @ihBelow (scene.object node).children
        ⟨progress.visited ++ [node],
          progress.out ++ (scene.captureObject game slottedForms node).toList⟩ rfl (by rw [start])
      obtain ⟨final, returns, visited⟩ := ihOthers others reached
      exact ⟨final, .append_null empty (.entered (start ▸ fresh) below returns), visited⟩

/-- A node is captured exactly if its name carries a form with an identity. -/
theorem isSome_captureObject_iff {object : Fin scene.count} :
    (scene.captureObject game slottedForms object).isSome ↔
      ∃ formID form, parseIEDObjectFormID (scene.object object).name = some formID ∧
        game.lookupByID formID = some form ∧ (makeFormIdentity (some form)).isSome := by
  constructor
  · intro present
    obtain ⟨captured, shape⟩ := Option.isSome_iff_exists.mp present
    simp only [captureObject, bind, Option.bind_eq_some_iff, Option.ite_none_right_eq_some] at shape
    obtain ⟨formID, parsed, form, known, persistent, _⟩ := shape
    exact ⟨formID, form, parsed, known, persistent⟩
  · rintro ⟨formID, form, parsed, known, persistent⟩
    rw [captureObject_of_parsed scene parsed known persistent, Option.isSome_some]

/-- The scan of every scene returns, with one result. It has entered every loaded node once, in
depth-first preorder, and captured in that order one object for each of these nodes whose name
carries a form with an identity. -/
theorem scan_returns (scene : PlayerScene) (game : GameData) (slottedForms : Vector FormID 19) :
    ∃ final, scene.Returns game slottedForms [some scene.root] ⟨[], []⟩ final ∧
      (∀ other, scene.Returns game slottedForms [some scene.root] ⟨[], []⟩ other → other = final) ∧
      final.visited.Nodup ∧ (∀ object, object ∈ final.visited ↔ scene.Loaded object) ∧
      Preorder scene.childNodes scene.root final.visited ∧
      final.out = final.visited.filterMap (scene.captureObject game slottedForms) ∧
      (∀ object, (scene.captureObject game slottedForms object).isSome ↔
        ∃ formID form, parseIEDObjectFormID (scene.object object).name = some formID ∧
          game.lookupByID formID = some form ∧ (makeFormIdentity (some form)).isSome) ∧
      scene.scan game slottedForms = final.out := by
  obtain ⟨order, walk⟩ := Walks.exists_of_nodup scene.childNodes [scene.root] List.nodup_nil
  obtain ⟨final, returns, rfl⟩ := @exists_returns scene game slottedForms [some scene.root]
    ⟨[], []⟩ _ _ _ walk rfl rfl
  have computed := @Walks.foldl_depthFirst _ _ _ _ _ _ _ walk (scene.count + 1) List.nodup_nil
    (by simp)
  rw [List.foldl_cons, List.foldl_nil] at computed
  have out := returns.out_eq rfl
  refine ⟨final, returns, ?_, walk.nodup List.nodup_nil, ?_, walk.preorder_root, out,
    fun _ => isSome_captureObject_iff, ?_⟩
  · intro other again
    have visited : other.visited = final.visited := walk.unique again.walks
    have captured := again.out_eq rfl
    rw [visited, ← out] at captured
    cases other
    cases final
    simp_all
  · intro object
    rw [← computed, mem_depthFirst_iff (by simp), Loaded]
  · obtain ⟨visited, captured⟩ := scene.visitIEDObjects_eq game slottedForms (scene.count + 1)
      scene.root ⟨[], []⟩ rfl
    rw [scan, captured, visited, computed, out]

end PlayerScene

end IEDSyncTogether

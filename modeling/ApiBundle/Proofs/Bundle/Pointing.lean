import ApiBundle.Proofs.Bundle.Course
import ApiBundle.Proofs.Registry.Recognition
import ApiBundle.Proofs.Scan.Hoisting

/-!
# Where hoisted content is pointed at

A reference that is hoisted is replaced by one to its entry, in the container of the entry's
component. An entry is known by its origin alone and is made once. Its component is that of the site
that asked for it first; references to the same target from other sites point there as well, also
where another component stands (`Bundle.pointed_elsewhere`).
-/

namespace ApiBundle

open Scanning Scan

/-- An entry for what a reference leads to: it is known by the identity of the reference, or by the
document and the place. -/
def Entry.IsFor (e : Entry) (r : Reference) : Prop :=
  e.origin.id = r.id ∨ ∃ u, r.url = some u ∧ e.origin.id = (Reference.atPointer u r.pointer).id

namespace Registry

variable {r g : Registry} {node : Json} {c : Component} {place : Pointer} {base : Uri} {e : Entry}

theorem entry_of_localize (h : r.localize node c place base = .ok (e, g)) :
    e.head ∈ g.heads ∧ e.origin.id = (Reference.atPointer base place).id ∧
      (r.find? e.origin.id = some e ∨ r.find? e.origin.id = none ∧ e.component = c) := by
  rcases localize_cases h with ⟨rfl, hfind⟩ | ⟨container, -, hfresh, rfl, rfl⟩
  · obtain ⟨hmem, horigin⟩ := mem_of_find? hfind
    exact ⟨List.mem_map_of_mem hmem, horigin, .inl (horigin ▸ hfind)⟩
  · refine ⟨?_, rfl, .inr ⟨hfresh, rfl⟩⟩
    rw [heads_append]
    exact List.mem_append_right _ (List.mem_singleton_self _)

end Registry

namespace Session

variable {d : Dialect} {s s' : Session}

/-- A state whose registry came about by calls for components of a dialect. -/
structure Filed (d : Dialect) (s : Session) : Prop where
  wf : s.store.WF
  dialect : s.dialect = d
  calls : Registry.Reaches d .empty s.registry

theorem Filed.evolves (h : Filed d s) (hev : s.Evolves s') : Filed d s' where
  wf := hev.wf
  dialect := hev.dialect.trans h.dialect
  calls := h.calls.trans (h.dialect ▸ hev.calls)

theorem Filed.leadsTo (h : Filed d s) (hw : s.LeadsTo s') : Filed d s' := by
  induction hw with
  | later steps => exact h.evolves steps
  | inside steps r _ ih =>
    have hbefore := h.evolves steps
    exact ih ⟨hbefore.wf, hbefore.dialect, hbefore.calls⟩

end Session

namespace Scan

variable {nested : NestedScan} {node : Json} {r : Reference} {state : Option Nat}
  {s s' : Session} {d : Dialect} {answer : Disposition Completion}

/-- A reference that is hoisted stays as it is, or becomes one to the entry of its target. -/
theorem entry_of_localizes (hnested : NestedEvolves nested) (hwf : s.store.WF)
    (hr : ∀ c, r.component = some c → c ∈ s.dialect.components)
    (h : Localizes nested node r state s (.ok answer) s') :
    answer = .doneWith node.withoutAdornment ∨ ∃ e, answer = .doneWith e.refNode ∧
      e.head ∈ s'.registry.heads ∧ e.IsFor r ∧
      (s.registry.find? e.origin.id = some e ∨
        s.registry.find? e.origin.id = none ∧ r.component = some e.component) := by
  cases h with
  | bare | missing | gone => exact .inl rfl
  | @known c e component entry =>
    have hfind : s.registry.find? r.id = some e := by
      unfold settledEntry? at entry
      split at entry
      · exact entry
      · cases entry
    obtain ⟨hmem, horigin⟩ := Registry.mem_of_find? hfind
    exact .inr ⟨e, rfl, List.mem_map_of_mem hmem, .inl horigin, .inl (horigin ▸ hfind)⟩
  | @active c id s₁ raw url e g component entry look tree hurl hoist active =>
    obtain ⟨hmem, horigin, hmade⟩ := Registry.entry_of_localize hoist
    rw [registry_of_loads look] at hmade
    refine .inr ⟨e, rfl, hmem, .inr ⟨url, hurl, horigin⟩, hmade.imp_right ?_⟩
    rintro ⟨hnone, rfl⟩
    exact ⟨hnone, component⟩
  | @hoisted c id s₁ s₂ raw url e g tree' component entry look tree hurl hoist free scan =>
    obtain ⟨hmem, horigin, hmade⟩ := Registry.entry_of_localize hoist
    have hlook := evolves_of_loads hwf look
    have hhoist := Session.evolves_localized hlook.wf (hlook.dialect ▸ hr _ component) hoist
    obtain ⟨s₃, hends, rfl⟩ := scan
    have hscan := relates_of_rescans (carries_evolves hnested)
      (s := (s₁.withRegistry g).enter r) hhoist.wf hends
    have hkept := extends_hoisted (s := s₃.leave r) (r := r) (y := tree')
    rw [registry_of_loads look] at hmade
    refine .inr ⟨e, rfl, (hscan.registry.trans hkept).subset hmem, .inr ⟨url, hurl, horigin⟩,
      hmade.imp_right ?_⟩
    rintro ⟨hnone, rfl⟩
    exact ⟨hnone, component⟩

end Scan

namespace Bundle

variable {d : Dialect} {o : Options} {source : Source} {root : Uri} {tree : Json} {bound : Nat}
  {s s' : Session} {base : Reference} {node : Json} {t : Tracker Component} {r : Reference}
  {c : Component} {answer : Disposition Completion}

/-- A reference node from a site of a component that leads to the entry of a target. -/
structure PointsTo (s s' : Session) (c : Component) (r : Reference) (e : Entry) (new : Json) :
    Prop where
  /-- The text names a container and a name in it. -/
  text : ∃ container, e.component.info.container = some container ∧
    new = Json.refNode ("#" ++ container ++ "/" ++ Pointer.escape e.name)
  entry : e.head ∈ s'.registry.heads
  target : e.IsFor r
  /-- The container is that of the site if the target had no entry before. -/
  first : s.registry.find? e.origin.id = none → e.component = c
  /-- An entry that there was before keeps its component. -/
  again : ∀ e', s.registry.find? e.origin.id = some e' → e'.component = e.component

theorem filed_rooted (hroot : (Reference.forDocument root).documentRef.error = none) :
    (rooted d o source root tree).Filed d := by
  have h : Gathered d (rooted d o source root tree) := gathered_rooted hroot
  exact ⟨h.wf, h.dialect, h.registry ▸ .refl _ _⟩

theorem text_of_container? {home : Pointer} (h : c.container? = some home) :
    c.info.container = some home.text := by
  obtain ⟨text, htext, hparse⟩ := Option.bind_eq_some_iff.mp h
  rw [htext, Pointer.text_of_parse (ok_of_toOption hparse)]

/--
Wherever a run meets a reference that is to be hoisted, at a site of a component, it leaves the
reference as it is or points into the container of the component that the target's entry has.
-/
theorem points_to_entry (hroot : (Reference.forDocument root).documentRef.error = none)
    (hs : (rooted d o source root tree).LeadsTo s) (hmachine : t.machine = d.machine)
    (hsite : t.site.tag? = some c) (href : reference? s.options base node t = some r)
    (htreat : r.treatment s.options = .localize)
    (h : Ends (settle (scanFrom bound) base node t) s (.ok answer) s') :
    answer.replacement = some node.withoutAdornment ∨
      ∃ e new, answer.replacement = some new ∧ PointsTo s s' c r e new := by
  have hfiled := (filed_rooted hroot).leadsTo hs
  have hc : r.component = some c := (component_of_reference? href).trans hsite
  have htag : ∀ c, r.component = some c → c ∈ s.dialect.components := by
    intro c hc
    rw [hfiled.dialect]
    exact tag_mem_components hmachine c (component_of_reference? href ▸ hc)
  have hscans : NestedEvolves (scanFrom bound) := evolves_scanFrom bound
  unfold settle at h
  rw [ends_get_bind] at h
  simp only [href, htreat] at h
  obtain ⟨before, hlocal, hanswer⟩ := ends_andThen h
  cases before with
  | error e => cases hanswer
  | ok before =>
    cases hanswer
    have hlocal := localize_ends hfiled.wf hlocal
    have hafter := hfiled.evolves (evolves_of_localizes hscans hfiled.wf htag hlocal)
    rcases entry_of_localizes hscans hfiled.wf htag hlocal with
      rfl | ⟨e, rfl, hentry, htarget, hmade⟩
    · exact .inl rfl
    · have hhome := (((Registry.Orderly.empty d).reaches hafter.calls).homed e.head hentry).2
      refine .inr ⟨e, e.refNode, rfl, ⟨_, text_of_container? hhome, rfl⟩, hentry, htarget,
        fun hnone => ?_, fun e' he' => ?_⟩
      · rcases hmade with hfound | ⟨-, hown⟩
        · rw [hnone] at hfound
          cases hfound
        · exact Option.some.inj (hown.symm.trans hc)
      · rcases hmade with hfound | ⟨hnone, -⟩
        · cases hfound.symm.trans he'
          rfl
        · rw [hnone] at he'
          cases he'

namespace Elsewhere

def home : Uri := ⟨"mem", some (.ofHost (some (.name "a"))), "/main.json", none, none⟩

/-- A root where the schema of one response and another response are the same target. -/
def homeTree : Json :=
  .object [("swagger", .string "2.0"),
    ("paths", .object [("/p", .object [("get", .object [("responses", .object [
      ("200", .object [("schema", Json.refNode "#/x-t")]), ("404", Json.refNode "#/x-t")])])])]),
    ("x-t", .object [("type", .string "string")])]

def missing : Pointer := ⟨["paths", "/p", "get", "responses", "404"]⟩

def begun : Session := rooted .swagger2 .default (.ofTexts []) home homeTree

/-- Where a response may stand. -/
def site : Tracker Component :=
  .start Dialect.swagger2.machine (some (Dialect.swagger2.stateOf .response))

/-- The reference that a node there holds. -/
def target : Reference := .resolve "#/x-t" (some home) (some ⟨.swagger2, .response⟩)

end Elsewhere

set_option maxRecDepth 10000 in
/-- A response that is met first is pointed at among responses. -/
theorem points_to_entry_response : ∃ answer s' e,
    Ends (settle (scanFrom 10) (.forDocument Elsewhere.home) (Json.refNode "#/x-t") Elsewhere.site)
      Elsewhere.begun (.ok answer) s' ∧
    PointsTo Elsewhere.begun s' ⟨.swagger2, .response⟩ Elsewhere.target e
      (Json.refNode "#/responses/main_RESPONSE") ∧
    e.component = ⟨.swagger2, .response⟩ := by
  have hvisit : (Elsewhere.site.site.tag?,
      ((settle (scanFrom 10) (.forDocument Elsewhere.home) (Json.refNode "#/x-t")
        Elsewhere.site).run.run Elsewhere.begun).bind
          fun p => p.1.toOption.bind (·.replacement)) =
      (some ⟨.swagger2, .response⟩, some (Json.refNode "#/responses/main_RESPONSE")) := by
    decide +kernel
  obtain ⟨hsite, hvisit⟩ := Prod.mk.inj hvisit
  obtain ⟨⟨result, s'⟩, hends, hresult⟩ := Option.bind_eq_some_iff.mp hvisit
  obtain ⟨answer, hanswer, hnew⟩ := Option.bind_eq_some_iff.mp hresult
  cases ok_of_toOption hanswer
  have hroot : (Reference.forDocument Elsewhere.home).documentRef.error = none := by
    decide
  have hstart : Elsewhere.begun.LeadsTo Elsewhere.begun :=
    .later (.refl (filed_rooted (d := .swagger2) hroot).wf)
  have href : reference? .default (.forDocument Elsewhere.home) (Json.refNode "#/x-t")
      Elsewhere.site = some Elsewhere.target := by
    unfold reference?
    rw [hsite]
    rfl
  have htreat : Elsewhere.target.treatment .default = .localize := by decide
  -- the machine is large, so it is not looked at here
  have hmachine : ∀ (m : Machine Component) q, (Tracker.start m q).machine = m := fun _ _ => rfl
  rcases points_to_entry hroot hstart (hmachine _ _) hsite href htreat hends with
    hkept | ⟨e, new, hreplaced, hpoints⟩
  · rw [hnew] at hkept
    exact absurd hkept (by decide)
  · cases hnew.symm.trans hreplaced
    exact ⟨answer, s', e, hends, hpoints, hpoints.first rfl⟩

set_option maxRecDepth 10000 in
/-- Two sites of different components share a target: the response is pointed at among schemas. -/
theorem pointed_elsewhere :
    Elsewhere.homeTree.follow? Elsewhere.missing.keys = some (Json.refNode "#/x-t") ∧
    (Dialect.swagger2.trackerAt Elsewhere.missing).site.tag? = some ⟨.swagger2, .response⟩ ∧
    (⟨.swagger2, .response⟩ : Component).info.container = some "/responses" ∧
    (∃ out s', ended 10 (.ofTexts []) .default Elsewhere.home Elsewhere.homeTree .swagger2 =
        some (.ok out, s') ∧
      out.follow? Elsewhere.missing.keys = some (Json.refNode "#/definitions/main_SCHEMA")) ∧
    ∀ name, "#/definitions/main_SCHEMA" ≠ "#" ++ "/responses" ++ "/" ++ Pointer.escape name := by
  have hrun : ((Dialect.swagger2.trackerAt Elsewhere.missing).site.tag?,
      (ended 10 (.ofTexts []) .default Elsewhere.home Elsewhere.homeTree .swagger2).bind
        fun p => p.1.toOption.bind (·.follow? Elsewhere.missing.keys)) =
      (some ⟨.swagger2, .response⟩, some (Json.refNode "#/definitions/main_SCHEMA")) := by
    decide +kernel
  obtain ⟨hsite, hrun⟩ := Prod.mk.inj hrun
  obtain ⟨⟨result, s'⟩, hended, hvalue⟩ := Option.bind_eq_some_iff.mp hrun
  obtain ⟨out, hout, hfollow⟩ := Option.bind_eq_some_iff.mp hvalue
  refine ⟨by decide, hsite, by decide, ⟨out, s', ok_of_toOption hout ▸ hended, hfollow⟩, ?_⟩
  intro name h
  have hthird := congrArg (fun text => (text.toList.drop 2).head?) h
  simp [String.toList_append] at hthird

end Bundle

end ApiBundle

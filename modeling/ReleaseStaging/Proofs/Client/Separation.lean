import ReleaseStaging.Proofs.Client.Paths

/-!
# Endpoints are told apart

The endpoint of a transition ends with two segments: the profile of the stage in its encoded form,
and the verb of the transition. Both can be read from the text of the endpoint, since neither holds
a slash and a percent sign in a profile is encoded like any other character that means something in
an address. So no profile reaches the endpoint of another one, and no transition that of another
one. Main statement: `endpoints_told_apart`.
-/

namespace ReleaseStaging

open Url (IsPlainSegment withoutRoot writtenSegment)

/-- An address ends with a segment that holds a profile and with the verb of a transition. -/
def Action.IsAt (action : Action) (profileId : String) (url : Url) : Prop :=
  ∃ front written, url.text = front ++ "/" ++ written ++ "/" ++ action.verb ∧
    StandsFor written profileId

/-- A segment holds one text. -/
theorem StandsFor.unique {written segment other : String} (h : StandsFor written segment)
    (hother : StandsFor written other) : segment = other :=
  Option.some.inj (h.decoded.symm.trans hother.decoded)

theorem StandsFor.slash_notMem {written segment : String} (h : StandsFor written segment) :
    '/' ∉ written.toList :=
  h.single '/' List.mem_cons_self

/-- The text of an address tells its transition and its profile. -/
theorem Action.IsAt.unique {action other : Action} {profileId profileId' : String}
    {url url' : Url} (h : action.IsAt profileId url) (h' : other.IsAt profileId' url')
    (htext : url.text = url'.text) : action = other ∧ profileId = profileId' := by
  obtain ⟨front, written, hurl, hstands⟩ := h
  obtain ⟨front', written', hurl', hstands'⟩ := h'
  rw [hurl, hurl'] at htext
  obtain ⟨hrest, hverb⟩ :=
    Url.eq_of_slash_append_eq action.slash_notMem_verb other.slash_notMem_verb htext
  obtain ⟨-, rfl⟩ :=
    Url.eq_of_slash_append_eq hstands.slash_notMem hstands'.slash_notMem hrest
  exact ⟨Action.verb_injective hverb, hstands.unique hstands'⟩

/-- Below a base address a plain profile has an endpoint for each transition, which ends with both
of them. -/
theorem exists_endpoint {base : Url} (hbase : IsBase base) {stage : Stage}
    (hprofile : IsPlainSegment stage.profileId) (action : Action) :
    ∃ url, action.endpoint base stage = .ok url ∧ action.IsAt stage.profileId url := by
  obtain ⟨above, hpath⟩ := hbase.path
  have hsegments : action.segments stage =
      ["service", "local", "staging", "profiles"] ++ [stage.profileId, action.verb] := rfl
  have hplain : ∀ segment ∈ action.segments stage, IsPlainSegment segment := by
    have hfixed : ∀ segment ∈ ["service", "local", "staging", "profiles"],
        IsPlainSegment segment := by decide
    rw [hsegments]
    exact List.forall_mem_append.mpr ⟨hfixed, List.forall_mem_cons.mpr
      ⟨hprofile, List.forall_mem_singleton.mpr action.isPlainSegment_verb⟩⟩
  have hne : action.segments stage ≠ [] := List.cons_ne_nil _ _
  refine ⟨_, below_eq_ok hbase hpath hne hplain false, base.scheme ++ ":" ++ base.server ++
    (Url.Path.rooted (withoutRoot above ++
      ["service", "local", "staging", "profiles"].map (writtenSegment true))).text, _, ?_,
    standsFor_writtenSegment hprofile⟩
  have hwritten : withoutRoot above ++ (action.segments stage).map (writtenSegment true) =
      withoutRoot above ++ ["service", "local", "staging", "profiles"].map (writtenSegment true) ++
        [writtenSegment true stage.profileId] ++ [action.verb] := by
    simp [hsegments, action.writtenSegment_verb]
  rw [hbase.text_withSegments, if_neg Bool.false_ne_true, List.append_nil, hwritten,
    Url.Path.text_concat, Url.Path.text_concat]
  simp only [String.append_assoc]

/-- Below every accepted base address, whatever its path is, any two transitions of stages with
plain profiles have endpoints. The segment before the last one holds the profile, and the two
addresses are the same exactly if the transitions and the profiles are. -/
theorem endpoints_told_apart {given : String} {base : Url} (h : baseUrl given = .ok base)
    {stage other : Stage} (hstage : IsPlainSegment stage.profileId)
    (hother : IsPlainSegment other.profileId) (action action' : Action) :
    ∃ url url', action.endpoint base stage = .ok url ∧ action'.endpoint base other = .ok url' ∧
      action.IsAt stage.profileId url ∧ action'.IsAt other.profileId url' ∧
      (url.text = url'.text ↔ action = action' ∧ stage.profileId = other.profileId) := by
  have hbase := isBase_of_baseUrl h
  obtain ⟨url, hendpoint, hat⟩ := exists_endpoint hbase hstage action
  obtain ⟨url', hendpoint', hat'⟩ := exists_endpoint hbase hother action'
  refine ⟨url, url', hendpoint, hendpoint', hat, hat', hat.unique hat', ?_⟩
  rintro ⟨rfl, hprofile⟩
  have hsegments : action.segments stage = action.segments other := by
    simp only [Action.segments, Action.template, List.map_cons, List.map_nil,
      Action.TemplateSegment.fill, hprofile]
  rw [Action.endpoint, hsegments, ← Action.endpoint, hendpoint', Except.ok.injEq] at hendpoint
  rw [hendpoint]

/-- A profile that looks like an encoded one keeps its own endpoint, also where the base address is
two slashes. -/
theorem endpoints_told_apart_encoded :
    ∃ base url url', baseUrl "http://h//" = .ok base ∧ IsPlainSegment "a/b" ∧
      IsPlainSegment "a%2Fb" ∧ Action.close.endpoint base ⟨"a/b", "s"⟩ = .ok url ∧
      Action.close.endpoint base ⟨"a%2Fb", "s"⟩ = .ok url' ∧ url.text ≠ url'.text := by
  have hbase : baseUrl "http://h//" = .ok
      ⟨"http", some ⟨"", "", "h", none⟩, false, .rooted ["", ""], none, none⟩ :=
    toOption_eq_some_iff.mp (by decide +kernel)
  obtain ⟨url, url', hendpoint, hendpoint', -, -, hsame⟩ :=
    @endpoints_told_apart _ _ hbase ⟨"a/b", "s"⟩ ⟨"a%2Fb", "s"⟩ (by decide) (by decide) .close
      .close
  refine ⟨_, url, url', hbase, by decide, by decide, hendpoint, hendpoint', ?_⟩
  rw [ne_eq, hsame]
  decide

end ReleaseStaging

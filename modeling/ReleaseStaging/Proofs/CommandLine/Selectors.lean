import ReleaseStaging.CommandLine.Invocation

/-!
# Options that say which stage is meant

A stage is meant by its identifier, perhaps with its profile, or by an artifact, perhaps with its
version. Options need and exclude each other so that one of the two is given, and in full. But what
an option needs may be missing if an option is given that excludes it, so an artifact is accepted
beside a stage without a group, and a profile beside a group without a stage. Main statement: these
are all the ways in which an accepted option goes unregarded.
-/

namespace ReleaseStaging

namespace StageTarget

/-- A target means a stage in one way, and in full. -/
structure IsCoherent (target : StageTarget) : Prop where
  /-- A stage is not combined with an artifact. -/
  stage : target.stage.isSome = true →
    target.group = none ∧ target.artifact = none ∧ target.version = none
  /-- A profile is that of a stage. -/
  profile : target.profile.isSome = true → target.stage.isSome = true
  /-- A group and an artifact come together. -/
  artifact : target.group.isSome = true ↔ target.artifact.isSome = true
  /-- A version is that of an artifact in a group. -/
  version : target.version.isSome = true → target.group.isSome = true

/-- A target is accepted: what an option needs is given, or excluded. -/
structure IsAcceptable (target : StageTarget) : Prop where
  /-- A stage excludes a group. -/
  stage : target.stage.isSome = true → target.group = none
  /-- A profile needs a stage, which a group excludes. -/
  profile : target.profile.isSome = true → target.stage.isSome = true ∨ target.group.isSome = true
  /-- A group needs an artifact. -/
  group : target.group.isSome = true → target.artifact.isSome = true
  /-- An artifact needs a group, which a stage excludes. -/
  artifact : target.artifact.isSome = true → target.group.isSome = true ∨ target.stage.isSome = true
  /-- A version needs an artifact. -/
  version : target.version.isSome = true → target.artifact.isSome = true

/-- What counts of a target: the stage with its profile, or else the artifact. -/
def regarded (target : StageTarget) : StageTarget :=
  match target.stage with
  | some stageId => { stage := some stageId, profile := target.profile }
  | none => { group := target.group, artifact := target.artifact, version := target.version }

/-- Nothing else of a target makes a difference to the stage that is found. -/
theorem resolve_regarded (target : StageTarget) (client : Client) :
    target.regarded.resolve client = target.resolve client := by
  obtain ⟨stageId?, profileId?, group?, artifact?, version⟩ := target
  cases stageId? <;> cases profileId? <;> cases group? <;> cases artifact? <;> rfl

/-- An accepted target is coherent unless an artifact stands beside a stage, or a profile beside a
group. -/
theorem IsAcceptable.isCoherent_iff {target : StageTarget} (h : target.IsAcceptable) :
    target.IsCoherent ↔
      ¬ (target.stage.isSome = true ∧ target.artifact.isSome = true) ∧
        ¬ (target.profile.isSome = true ∧ target.group.isSome = true) := by
  constructor
  · intro hcoherent
    refine ⟨?_, ?_⟩
    · rintro ⟨hstage, hartifact⟩
      rw [(hcoherent.stage hstage).2.1] at hartifact
      cases hartifact
    · rintro ⟨hprofile, hgroup⟩
      rw [h.stage (hcoherent.profile hprofile)] at hgroup
      cases hgroup
  · rintro ⟨hbeside, hprofiled⟩
    have hnone {value : Option String} (hvalue : value.isSome = true → False) : value = none :=
      Option.not_isSome_iff_eq_none.mp hvalue
    have hgrouped (hartifact : target.artifact.isSome = true) : target.group.isSome = true :=
      (h.artifact hartifact).resolve_right fun hstage => hbeside ⟨hstage, hartifact⟩
    refine ⟨?_, ?_, ⟨h.group, hgrouped⟩, fun hversion => hgrouped (h.version hversion)⟩
    · intro hstage
      exact ⟨h.stage hstage, hnone fun hartifact => hbeside ⟨hstage, hartifact⟩,
        hnone fun hversion => hbeside ⟨hstage, h.version hversion⟩⟩
    · intro hprofile
      exact (h.profile hprofile).resolve_right fun hgroup => hprofiled ⟨hprofile, hgroup⟩

/-- All of an accepted target counts exactly if it is coherent. -/
theorem IsAcceptable.regarded_eq_iff {target : StageTarget} (h : target.IsAcceptable) :
    target.regarded = target ↔ target.IsCoherent := by
  obtain ⟨stageId?, profileId?, group?, artifact?, version?⟩ := target
  cases stageId? with
  | some stageId =>
    constructor
    · intro hregarded
      obtain ⟨rfl, rfl, rfl⟩ : none = group? ∧ none = artifact? ∧ none = version? := by
        simpa [regarded] using hregarded
      exact ⟨fun _ => ⟨rfl, rfl, rfl⟩, fun _ => rfl, Iff.rfl, fun hversion => hversion⟩
    · intro hcoherent
      obtain ⟨rfl, rfl, rfl⟩ := hcoherent.stage rfl
      rfl
  | none =>
    constructor
    · intro hregarded
      obtain rfl : none = profileId? := by simpa [regarded] using hregarded
      rw [h.isCoherent_iff]
      simp
    · intro hcoherent
      cases profileId? with
      | none => rfl
      | some profileId => cases hcoherent.profile rfl

end StageTarget

namespace CommandLine

/-- The target of a command that works on a stage. -/
def Choice.target? : Choice → Option StageTarget
  | close target _ _ _ _ | drop target | release target _ | activity target => some target
  | status | version | list | find _ => none

/-- A command has a target if it works on a stage, and its options name it. -/
theorem target?_choiceOf (command : Subcommand) (scanned : Scanned) :
    (choiceOf command scanned).target? =
      if command.hasTarget then some (targetOf scanned) else none := by
  cases command <;> rfl

/-- An option was given if there is a value of it. -/
theorem Scanned.has_eq_isSome (scanned : Scanned) (name : OptionName) :
    scanned.has name = (scanned.value? name).isSome := by
  rw [Bool.eq_iff_iff, Scanned.has, Scanned.value?, List.lookup_isSome_iff, List.any_eq_true]
  exact exists_congr fun entry => and_congr_right fun _ => by rw [beq_iff_eq, beq_iff_eq, eq_comm]

/-- An option is not lacking if it is given, or one that excludes it. -/
theorem isLacking_eq_false_iff {command : Subcommand} (h : command.hasTarget = true)
    {scanned : Scanned} {name : OptionName} :
    isLacking command scanned name = false ↔ scanned.has name = true ∨
      name = .stage ∧ scanned.has .group = true ∨ name = .group ∧ scanned.has .stage = true := by
  have hexcluded : (scanned.given.any fun entry => excludes name entry.1) = true ↔
      name = .stage ∧ scanned.has .group = true ∨ name = .group ∧ scanned.has .stage = true := by
    simp only [excludes, Scanned.has, List.any_eq_true, Bool.or_eq_true, Bool.and_eq_true,
      beq_iff_eq]
    constructor
    · rintro ⟨entry, hentry, ⟨hname, hother⟩ | ⟨hname, hother⟩⟩
      · exact .inl ⟨hname, entry, hentry, hother⟩
      · exact .inr ⟨hname, entry, hentry, hother⟩
    · rintro (⟨hname, entry, hentry, hother⟩ | ⟨hname, entry, hentry, hother⟩)
      · exact ⟨entry, hentry, .inl ⟨hname, hother⟩⟩
      · exact ⟨entry, hentry, .inr ⟨hname, hother⟩⟩
  rw [isLacking, h, Bool.true_and, Bool.and_eq_false_iff, Bool.not_eq_false', Bool.not_eq_false',
    hexcluded]

/-- A command on a stage lacks an option if a given one needs it. -/
theorem any_isLacking_iff {command : Subcommand} (h : command.hasTarget = true)
    (scanned : Scanned) :
    (required command scanned).any (isLacking command scanned) = true ↔
      ∃ name, scanned.has name = true ∧ ∃ needed ∈ needs name,
        isLacking command scanned needed = true := by
  simp only [required, h, if_true, List.any_eq_true, List.mem_flatMap, Scanned.has, beq_iff_eq]
  constructor
  · rintro ⟨needed, ⟨entry, hentry, hneeded⟩, hlacking⟩
    exact ⟨entry.1, ⟨entry, hentry, rfl⟩, needed, hneeded, hlacking⟩
  · rintro ⟨name, ⟨entry, hentry, rfl⟩, needed, hneeded, hlacking⟩
    exact ⟨needed, ⟨entry, hentry, hneeded⟩, hlacking⟩

/-- The options of a command on a stage are accepted exactly if the target that they name is. -/
theorem check_eq_ok_iff {command : Subcommand} (h : command.hasTarget = true) {scanned : Scanned} :
    check command scanned = .ok () ↔ (targetOf scanned).IsAcceptable := by
  have hstage : scanned.has .stage = (targetOf scanned).stage.isSome := scanned.has_eq_isSome _
  have hprofile : scanned.has .profile = (targetOf scanned).profile.isSome :=
    scanned.has_eq_isSome _
  have hgroup : scanned.has .group = (targetOf scanned).group.isSome := scanned.has_eq_isSome _
  have hartifact : scanned.has .artifact = (targetOf scanned).artifact.isSome :=
    scanned.has_eq_isSome _
  have hversion : scanned.has .artifactVersion = (targetOf scanned).version.isSome :=
    scanned.has_eq_isSome _
  have hchecked : check command scanned = .ok () ↔
      ¬ (scanned.has .stage = true ∧ scanned.has .group = true) ∧
        ∀ name, scanned.has name = true → ∀ needed ∈ needs name,
          isLacking command scanned needed = false := by
    rw [check]
    by_cases hboth : (scanned.has .stage && scanned.has .group) = true
    · rw [if_pos hboth]
      exact iff_of_false (by simp) fun hok => hok.1 (by simpa using hboth)
    · rw [if_neg hboth]
      by_cases hlacks : (required command scanned).any (isLacking command scanned) = true
      · rw [if_pos hlacks]
        obtain ⟨name, hname, needed, hneeded, hlacking⟩ := (any_isLacking_iff h scanned).mp hlacks
        refine iff_of_false (by simp) fun hok => ?_
        rw [hok.2 name hname needed hneeded] at hlacking
        cases hlacking
      · rw [if_neg hlacks]
        refine iff_of_true rfl ⟨by simpa using hboth, ?_⟩
        intro name hname needed hneeded
        rw [Bool.eq_false_iff]
        intro hlacking
        exact hlacks ((any_isLacking_iff h scanned).mpr ⟨name, hname, needed, hneeded, hlacking⟩)
  simp only [isLacking_eq_false_iff h] at hchecked
  rw [hchecked]
  constructor
  · rintro ⟨hexclusive, hneeds⟩
    refine ⟨?_, ?_, ?_, ?_, ?_⟩
    · intro hs
      rw [hstage, hgroup] at hexclusive
      exact Option.not_isSome_iff_eq_none.mp fun hg => hexclusive ⟨hs, hg⟩
    · intro hp
      have := hneeds .profile (hprofile ▸ hp) .stage (by simp [needs])
      simpa [hstage, hgroup] using this
    · intro hg
      have := hneeds .group (hgroup ▸ hg) .artifact (by simp [needs])
      simpa [hartifact] using this
    · intro ha
      have := hneeds .artifact (hartifact ▸ ha) .group (by simp [needs])
      simpa [hstage, hgroup] using this
    · intro hv
      have := hneeds .artifactVersion (hversion ▸ hv) .artifact (by simp [needs])
      simpa [hartifact] using this
  · rintro ⟨hs, hp, hg, ha, hv⟩
    refine ⟨?_, ?_⟩
    · rw [hstage, hgroup]
      rintro ⟨hisStage, hisGroup⟩
      rw [hs hisStage] at hisGroup
      cases hisGroup
    · have hgrouped (hisArtifact : (targetOf scanned).artifact.isSome = true) :
          scanned.has .group = true ∨ OptionName.group = .stage ∧ scanned.has .group = true ∨
            OptionName.group = .group ∧ scanned.has .stage = true :=
        (ha hisArtifact).imp hgroup.trans fun hisStage => .inr ⟨rfl, hstage.trans hisStage⟩
      intro name hname needed hneeded
      cases name with
      | profile =>
        obtain rfl := List.mem_singleton.mp hneeded
        exact (hp (hprofile ▸ hname)).imp hstage.trans fun hisGroup =>
          .inl ⟨rfl, hgroup.trans hisGroup⟩
      | group =>
        obtain rfl := List.mem_singleton.mp hneeded
        exact .inl (hartifact.trans (hg (hgroup ▸ hname)))
      | artifact =>
        obtain rfl := List.mem_singleton.mp hneeded
        exact hgrouped (hartifact ▸ hname)
      | artifactVersion =>
        have hisArtifact := hv (hversion ▸ hname)
        obtain rfl | hrest := List.mem_cons.mp hneeded
        · exact hgrouped hisArtifact
        · obtain rfl := List.mem_singleton.mp hrest
          exact .inl (hartifact.trans hisArtifact)
      | _ => cases hneeded

/-- Arguments that are accepted give a command whose options are accepted. -/
theorem check_of_ofArguments {fallback : Variables} {arguments : List String}
    {invocation : Invocation} (h : Invocation.ofArguments fallback arguments = .ok invocation) :
    ∃ command scanned, check command scanned = .ok () ∧
      invocation.choice = choiceOf command scanned := by
  simp only [Invocation.ofArguments, bind, Except.bind] at h
  cases hscan : scan none {} arguments with
  | error fault => simp [hscan] at h
  | ok found =>
    obtain ⟨before, rest⟩ := found
    simp only [hscan] at h
    cases rest with
    | none =>
      cases hbefore : before.settle with
      | error fault => simp [hbefore] at h
      | ok settled =>
        simp only [hbefore] at h
        split at h <;> cases h
    | some rest =>
      obtain ⟨command, rest⟩ := rest
      dsimp only at h
      cases hinner : scan (some command) {} rest with
      | error fault => simp [hinner] at h
      | ok inner =>
        simp only [hinner] at h
        cases hafter : inner.1.settle with
        | error fault => simp [hafter] at h
        | ok after =>
          simp only [hafter] at h
          cases hcheck : check command after with
          | error fault => simp [hcheck] at h
          | ok done =>
            simp only [hcheck] at h
            cases hbefore : before.settle with
            | error fault => simp [hbefore] at h
            | ok settled =>
              simp only [hbefore] at h
              cases h
              exact ⟨command, after, hcheck, rfl⟩

/-- Every target that is accepted is coherent, unless an artifact stands beside a stage or a profile
beside a group. Exactly a coherent one counts in full when the stage is found. -/
theorem accepted_selectors_count_iff {fallback : Variables} {arguments : List String}
    {invocation : Invocation} (h : Invocation.ofArguments fallback arguments = .ok invocation)
    {target : StageTarget} (htarget : invocation.choice.target? = some target) :
    target.IsAcceptable ∧
      (target.IsCoherent ↔
        ¬ (target.stage.isSome = true ∧ target.artifact.isSome = true) ∧
          ¬ (target.profile.isSome = true ∧ target.group.isSome = true)) ∧
      (target.regarded = target ↔ target.IsCoherent) ∧
      ∀ client, target.regarded.resolve client = target.resolve client := by
  obtain ⟨command, scanned, hcheck, hchoice⟩ := check_of_ofArguments h
  have hacceptable : target.IsAcceptable := by
    rw [hchoice, target?_choiceOf] at htarget
    by_cases hasTarget : command.hasTarget = true
    · rw [if_pos hasTarget] at htarget
      rw [← Option.some.inj htarget]
      exact (check_eq_ok_iff hasTarget).mp hcheck
    · rw [if_neg hasTarget] at htarget
      cases htarget
  exact ⟨hacceptable, hacceptable.isCoherent_iff, hacceptable.regarded_eq_iff,
    target.resolve_regarded⟩

/-- A stage with its profile counts in full. -/
theorem accepted_selectors_count_iff_named :
    ∃ invocation, Invocation.ofArguments {}
        ["--url", "http://n/", "drop", "-s", "s", "--profile", "p"] = .ok invocation ∧
      invocation.choice.target? = some { stage := some "s", profile := some "p" } ∧
      StageTarget.IsCoherent { stage := some "s", profile := some "p" } := by
  have hok : Invocation.ofArguments {}
      ["--url", "http://n/", "drop", "-s", "s", "--profile", "p"] =
        .ok ⟨⟨some "http://n/", none, none, none, none, none, false⟩,
          .drop { stage := some "s", profile := some "p" }⟩ := rfl
  exact ⟨_, hok, rfl, (accepted_selectors_count_iff hok rfl).2.1.mpr ⟨by simp, by simp⟩⟩

/-- An artifact beside a stage is accepted and does not count, and neither does a profile beside a
group. -/
theorem accepted_selectors_unregarded :
    (∃ invocation target, Invocation.ofArguments {}
        ["--url", "http://n/", "drop", "-s", "s", "-a", "a"] = .ok invocation ∧
      invocation.choice.target? = some target ∧ target.artifact = some "a" ∧
      ¬ target.IsCoherent ∧ target.regarded.artifact = none) ∧
    ∃ invocation target, Invocation.ofArguments {}
        ["--url", "http://n/", "activity", "--profile", "p", "-g", "g", "-a", "a"] =
          .ok invocation ∧
      invocation.choice.target? = some target ∧ target.profile = some "p" ∧
      ¬ target.IsCoherent ∧ target.regarded.profile = none := by
  refine ⟨⟨⟨⟨some "http://n/", none, none, none, none, none, false⟩,
      .drop { stage := some "s", artifact := some "a" }⟩, _, rfl, rfl, rfl, ?_, rfl⟩,
    ⟨⟨some "http://n/", none, none, none, none, none, false⟩,
      .activity { profile := some "p", group := some "g", artifact := some "a" }⟩,
    _, rfl, rfl, rfl, ?_, rfl⟩
  · intro hcoherent
    cases (hcoherent.stage rfl).2.1
  · intro hcoherent
    cases hcoherent.profile rfl

end CommandLine

end ReleaseStaging

import ReleaseStaging.Proofs.Json.Members
import ReleaseStaging.Proofs.Json.Writing

/-!
# Configurations that survive their files

A configuration is written as one object, with another one for the settings of waiting. Main
statement: a file is read as the configuration however its members are arranged, spaced, left out
where they hold their defaults, and mixed with others, whose names only have to be texts.
-/

namespace ReleaseStaging

open Json (AreNamed IsFound IsProper IsTextOf Varies)

/-! ## Values of members -/

namespace Json

/-- A text is read back. -/
@[simp] theorem text?_ofText (text : String) : (ofText text).text? = some text := by
  rw [ofText, text?, unescape?_escape, Option.map_some, String.ofList_toList]

/-- A number below a bound is read back. -/
theorem natBelow?_ofNat {bound n : Nat} (h : n < bound) : natBelow? bound (ofNat n) = some n := by
  simp [natBelow?, ofNat, h]

end Json

/-! ## How to wait -/

namespace PollSettings

/-- The members of the document of the settings. -/
def members (settings : PollSettings) : List (String × Json) :=
  [("interval_ms", .ofNat settings.intervalMillis.toNat),
    ("max_attempts",
      (settings.maxAttempts.map fun attempts => Json.ofNat attempts.toNat).getD .null)]

/-- An object with the members of the settings, some that hold their default perhaps left out,
others perhaps added. -/
inductive IsVariant (settings : PollSettings) : Json → Prop where
  /-- The names may be spelled in any way. -/
  | object {members : List (List Char × Json)} {named : List (String × Json)}
      (hnames : AreNamed members named)
      (h : Varies ({} : PollSettings).members settings.members named) :
      IsVariant settings (.object members)

/-- The largest number of polls is read back. -/
theorem nullable?_maxAttempts (maximum : Option UInt32) :
    Json.nullable? (Json.natBelow? UInt32.size)
        ((maximum.map fun attempts => Json.ofNat attempts.toNat).getD .null) =
      some (maximum.map UInt32.toNat) := by
  cases maximum with
  | none => rfl
  | some attempts =>
    have hread := Json.natBelow?_ofNat attempts.toNat_lt
    simpa [Json.nullable?, Json.ofNat] using hread

/-- Every variant is read as the settings. -/
theorem ofJson?_of_isVariant {settings : PollSettings} {document : Json}
    (h : settings.IsVariant document) : ofJson? document = some settings := by
  obtain ⟨hnames, hvaries⟩ := h
  have hnodup : memberNames.Nodup := by decide
  obtain ⟨values, hvalues, hfound⟩ := Json.valuesOf?_of_varies hnames hvaries hnodup
  obtain _ | ⟨hinterval, _ | ⟨hmaximum, _ | _⟩⟩ := hfound
  rename_i interval maximum
  have hinterval : Json.orDefault 500 (Json.natBelow? UInt64.size) interval =
      some settings.intervalMillis.toNat := by
    refine Json.orDefault_of_isFound hinterval
      (Json.natBelow?_ofNat settings.intervalMillis.toNat_lt) fun document hdefault => ?_
    obtain rfl : document = .ofNat 500 := by simpa [members] using hdefault
    rfl
  have hmaximum : Json.orDefault none (Json.nullable? (Json.natBelow? UInt32.size)) maximum =
      some (settings.maxAttempts.map UInt32.toNat) := by
    refine Json.orDefault_of_isFound hmaximum (nullable?_maxAttempts settings.maxAttempts)
      fun document hdefault => ?_
    obtain rfl : document = .null := by simpa [members] using hdefault
    rfl
  have hvalues : Json.valuesOf? memberNames (.object _) = some [interval, maximum] := hvalues
  have hround : UInt32.ofNat ∘ UInt32.toNat = id := funext fun _ => UInt32.ofNat_toNat
  rw [ofJson?, hvalues]
  simp [hinterval, hmaximum, hround]

/-- The document of the settings is a variant of itself. -/
theorem isVariant_toJson (settings : PollSettings) : settings.IsVariant settings.toJson :=
  .object (Json.areNamed_escape settings.members) (Json.varies_refl _ settings.members)

theorem isProper_toJson (settings : PollSettings) : IsProper settings.toJson := by
  refine Json.isProper_ofMembers ?_
  simp only [List.forall_mem_cons]
  refine ⟨Json.isProper_ofNat _, ?_, List.forall_mem_nil _⟩
  cases settings.maxAttempts with
  | none => exact Json.isProper_null
  | some attempts => exact Json.isProper_ofNat _

end PollSettings

/-! ## Configurations -/

namespace Configuration

/-- The members of the document of a configuration, given that of its way of waiting. -/
def members (configuration : Configuration) (poll : Json) : List (String × Json) :=
  [("base_url", .ofText configuration.baseUrl), ("username", .ofText configuration.username),
    ("password", .ofText configuration.password), ("user_agent", .ofText configuration.userAgent),
    ("request_timeout_seconds", .null), ("poll", poll)]

/-- The members that may be left out, with their defaults: all but the address. -/
def defaultMembers : List (String × Json) :=
  (({ baseUrl := "" } : Configuration).members ({} : PollSettings).toJson).tail

/-- An object with the members of the configuration, some that hold their default perhaps left
out, others perhaps added; the same goes for the object that holds its way of waiting. -/
inductive IsVariant (configuration : Configuration) : Json → Prop where
  /-- The names may be spelled in any way. -/
  | object {poll : Json} {members : List (List Char × Json)} {named : List (String × Json)}
      (hpoll : configuration.poll.IsVariant poll) (hnames : AreNamed members named)
      (h : Varies defaultMembers (configuration.members poll) named) :
      IsVariant configuration (.object members)

/-- Every variant of a configuration without a time limit is read as the configuration. -/
theorem ofJson?_of_isVariant {configuration : Configuration} {document : Json}
    (htimeout : configuration.requestTimeout = none) (h : configuration.IsVariant document) :
    ofJson? document = some configuration := by
  obtain ⟨hpoll, hnames, hvaries⟩ := h
  have hnodup : memberNames.Nodup := by decide
  obtain ⟨values, hvalues, hfound⟩ := Json.valuesOf?_of_varies hnames hvaries hnodup
  obtain _ | ⟨hbase, _ | ⟨huser, _ | ⟨hpassword, _ | ⟨hagent, _ | ⟨hlimit, _ | ⟨hway, _ | _⟩⟩⟩⟩⟩⟩ :=
    hfound
  rename_i base user password agent limit way
  have hbase : base.bind Json.text? = some configuration.baseUrl := by
    obtain rfl | ⟨-, hdefault⟩ := hbase
    · exact Json.text?_ofText _
    · simp [defaultMembers, members] at hdefault
  have huser : Json.orDefault "" Json.text? user = some configuration.username := by
    refine Json.orDefault_of_isFound huser (Json.text?_ofText _) fun document hdefault => ?_
    obtain rfl : document = .ofText "" := by simpa [defaultMembers, members] using hdefault
    rfl
  have hpassword : Json.orDefault "" Json.text? password = some configuration.password := by
    refine Json.orDefault_of_isFound hpassword (Json.text?_ofText _) fun document hdefault => ?_
    obtain rfl : document = .ofText "" := by simpa [defaultMembers, members] using hdefault
    rfl
  have hagent : Json.orDefault defaultUserAgent Json.text? agent =
      some configuration.userAgent := by
    refine Json.orDefault_of_isFound hagent (Json.text?_ofText _) fun document hdefault => ?_
    obtain rfl : document = .ofText defaultUserAgent := by
      simpa [defaultMembers, members] using hdefault
    exact Json.text?_ofText _
  have hlimit : Json.orDefault none (Json.nullable? Json.fraction64?) limit =
      some configuration.requestTimeout := by
    rw [htimeout]
    refine Json.orDefault_of_isFound hlimit rfl fun document hdefault => ?_
    obtain rfl : document = .null := by simpa [defaultMembers, members] using hdefault
    rfl
  have hway : Json.orDefault {} PollSettings.ofJson? way = some configuration.poll := by
    refine Json.orDefault_of_isFound hway (PollSettings.ofJson?_of_isVariant hpoll)
      fun document hdefault => ?_
    obtain rfl : document = ({} : PollSettings).toJson := by
      simpa [defaultMembers, members] using hdefault
    exact PollSettings.ofJson?_of_isVariant (PollSettings.isVariant_toJson {})
  have hvalues : Json.valuesOf? memberNames (.object _) =
      some [base, user, password, agent, limit, way] := hvalues
  rw [ofJson?, hvalues]
  simp [hbase, huser, hpassword, hagent, hlimit, hway]

/-- The document of a configuration is a variant of itself. -/
theorem isVariant_toJson (configuration : Configuration) :
    configuration.IsVariant configuration.toJson :=
  .object (PollSettings.isVariant_toJson configuration.poll)
    (Json.areNamed_escape (configuration.members configuration.poll.toJson))
    (Json.varies_refl _ _)

theorem isProper_members (configuration : Configuration) {poll : Json} (hpoll : IsProper poll) :
    ∀ member ∈ configuration.members poll, IsProper member.2 := by
  simp only [members, List.forall_mem_cons]
  exact ⟨Json.isProper_ofText _, Json.isProper_ofText _, Json.isProper_ofText _,
    Json.isProper_ofText _, Json.isProper_null, hpoll, List.forall_mem_nil _⟩

theorem isProper_toJson (configuration : Configuration) : IsProper configuration.toJson :=
  Json.isProper_ofMembers
    (configuration.isProper_members (PollSettings.isProper_toJson configuration.poll))

/-- A file with the document of a configuration without a time limit, or with any variant of it, is
read as the configuration. -/
theorem ofFile_of_isVariant {configuration : Configuration}
    (htimeout : configuration.requestTimeout = none) :
    configuration.IsVariant configuration.toJson ∧
      IsTextOf configuration.toJson configuration.toJson.text ∧
      ∀ document text path, configuration.IsVariant document → IsTextOf document text →
        ofFile path (.ok text) = .ok configuration := by
  refine ⟨configuration.isVariant_toJson, configuration.isProper_toJson.isTextOf, ?_⟩
  intro document text path hvariant htext
  rw [ofFile, Json.ofString?_of_isTextOf htext]
  simp only [Option.bind_some, ofJson?_of_isVariant htimeout hvariant]

/-- A configuration with escapes in its texts is read from a file with white space, in which the
address stands last, defaults are left out, and the value of another member is no text. -/
theorem ofFile_of_isVariant_spaced :
    ∃ (configuration : Configuration) (document : Json), configuration.requestTimeout = none ∧
      configuration.IsVariant document ∧
      document.text = "\x7b\"note\":\"\\ud800\",\"poll\":\x7b\"max_attempts\":3\x7d," ++
        "\"username\":\"\\\"\\u0001é\",\"base_url\":\"http://n/\"\x7d" ∧
      IsTextOf document (" \n" ++ document.text ++ "\t") ∧
      ofFile "nexus.json" (.ok (" \n" ++ document.text ++ "\t")) = .ok configuration := by
  have htimeout : (⟨"http://n/", "\"\x01é", "", defaultUserAgent, none, ⟨500, some 3⟩⟩ :
    Configuration).requestTimeout = none := rfl
  have hpoll : PollSettings.IsVariant ⟨500, some 3⟩ (.ofMembers [("max_attempts", .ofNat 3)]) :=
    .object (Json.areNamed_escape _)
      ⟨[("max_attempts", .ofNat 3)], [("interval_ms", .ofNat 500)], [], .swap _ _ _,
        by simp [PollSettings.members], List.forall_mem_nil _, .refl _⟩
  have hvariant : IsVariant ⟨"http://n/", "\"\x01é", "", defaultUserAgent, none, ⟨500, some 3⟩⟩
      (.ofMembers [("note", .string "\\ud800".toList),
        ("poll", .ofMembers [("max_attempts", .ofNat 3)]), ("username", .ofText "\"\x01é"),
        ("base_url", .ofText "http://n/")]) := by
    refine .object hpoll (Json.areNamed_escape _)
      ⟨[("base_url", .ofText "http://n/"), ("username", .ofText "\"\x01é"),
          ("poll", .ofMembers [("max_attempts", .ofNat 3)])],
        [("password", .ofText ""), ("user_agent", .ofText defaultUserAgent),
          ("request_timeout_seconds", .null)],
        [("note", .string "\\ud800".toList)], ?_, ?_, ?_, List.reverse_perm [_, _, _, _]⟩
    · exact ((show List.Perm ([_] ++ [_, _, _]) ([_, _, _] ++ [_]) from
        List.perm_append_comm).cons _).cons _
    · simp [defaultMembers, members]
    · simp [members]
  have hproper : IsProper (.ofMembers [("note", .string "\\ud800".toList),
      ("poll", .ofMembers [("max_attempts", .ofNat 3)]), ("username", .ofText "\"\x01é"),
      ("base_url", .ofText "http://n/")]) := by
    refine Json.isProper_ofMembers ?_
    simp only [List.forall_mem_cons]
    exact ⟨Json.isProper_string (.unit (by decide) .nil),
      Json.isProper_ofMembers (List.forall_mem_singleton.mpr (Json.isProper_ofNat 3)),
      Json.isProper_ofText _, Json.isProper_ofText _, List.forall_mem_nil _⟩
  have htext := hproper.isTextOf_padded
    (show Json.IsGap " \n".toList by decide) (show Json.IsGap "\t".toList by decide)
  exact ⟨_, _, htimeout, hvariant, by decide +kernel, htext,
    (ofFile_of_isVariant htimeout).2.2 _ _ _ hvariant htext⟩

/-- A file with one more member whose name is no text is refused. -/
theorem ofFile_refuses_unpaired_name :
    ∃ (configuration : Configuration) (members : List (List Char × Json)) (text : String),
      configuration.requestTimeout = none ∧ configuration.toJson = .object members ∧
      IsTextOf (.object (members ++ [("\\ud800".toList, .ofNat 1)])) text ∧
      ofFile "nexus.json" (.ok text) = .error (.configuration "cannot parse nexus.json") := by
  have hproper : IsProper (.object
      ((({ baseUrl := "http://n/" } : Configuration).members ({} : PollSettings).toJson).map
        (fun member => (Json.escape member.1, member.2)) ++ [("\\ud800".toList, .ofNat 1)])) := by
    refine Json.isProper_object (List.forall_mem_append.mpr ⟨?_, ?_⟩)
    · refine List.forall_mem_map.mpr fun member hmember => ⟨Json.isLiteral_escape _, ?_⟩
      exact isProper_members _ (PollSettings.isProper_toJson {}) member hmember
    · exact List.forall_mem_singleton.mpr ⟨.unit (by decide) .nil, Json.isProper_ofNat 1⟩
  refine ⟨{ baseUrl := "http://n/" }, _, _, rfl, rfl, hproper.isTextOf, ?_⟩
  rw [ofFile, hproper.ofString?_text]
  rfl

end Configuration

end ReleaseStaging

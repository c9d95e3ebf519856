import ReleaseStaging.Stage

/-!
# Transitions of a staging repository

A staging repository is closed, and then released or dropped. Each transition has a word in
messages and a path template on the server.
-/

namespace ReleaseStaging

/-- A transition that can be requested of a staging repository. -/
inductive Action where
  /-- Lock the repository and run the validation rules of the server. -/
  | close
  /-- Discard the repository. -/
  | drop
  /-- Promote the contents of a closed repository into its release repository. -/
  | release
  deriving DecidableEq, Repr

namespace Action

/-- Every transition. -/
def all : List Action := [close, drop, release]

theorem mem_all (action : Action) : action ∈ all := by
  cases action <;> simp [all]

/-- The word by which messages and documents name a transition. -/
def word : Action → String
  | close => "close"
  | drop => "drop"
  | release => "release"

/-- The transition a word names. -/
def ofWord? (text : String) : Option Action :=
  all.find? fun action => action.word == text

/-- Different transitions have different words. -/
theorem word_injective {a b : Action} (h : a.word = b.word) : a = b := by
  cases a <;> cases b <;> simp_all [word]

/-- A word names its transition. -/
@[simp] theorem ofWord?_word (action : Action) : ofWord? action.word = some action := by
  cases action <;> decide

/-- The last segment of the path that requests a transition. -/
def verb : Action → String
  | close => "finish"
  | drop => "drop"
  | release => "promote"

/-- Different transitions have different verbs. -/
theorem verb_injective {a b : Action} (h : a.verb = b.verb) : a = b := by
  cases a <;> cases b <;> simp_all [verb]

/-- A segment of a path template. -/
inductive TemplateSegment where
  /-- A segment that is the same for every stage. -/
  | fixed (text : String)
  /-- The place of the profile id. -/
  | profileId
  /-- The place of the stage id. -/
  | stageId
  deriving DecidableEq, Repr

/-- A template segment as documents show it. -/
def TemplateSegment.display : TemplateSegment → String
  | fixed text => text
  | profileId => "\x7bprofileID\x7d"
  | stageId => "\x7bstageID\x7d"

/-- What stands at a template segment for a given stage. -/
def TemplateSegment.fill (stage : Stage) : TemplateSegment → String
  | fixed text => text
  | profileId => stage.profileId
  | stageId => stage.stageId

/-- The path of a transition below the base address of the server. -/
def template (action : Action) : List TemplateSegment :=
  [.fixed "service", .fixed "local", .fixed "staging", .fixed "profiles", .profileId,
    .fixed action.verb]

/-- The path template as documents show it. -/
def templateText (action : Action) : String :=
  "/".intercalate (action.template.map TemplateSegment.display)

/-- The path segments of a transition of a stage. -/
def segments (action : Action) (stage : Stage) : List String :=
  action.template.map (TemplateSegment.fill stage)

end Action

end ReleaseStaging

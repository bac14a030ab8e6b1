import CiCoordinator.CiEconomics.Sources

/- The discovery windows and the pages that the provider answers for them. -/

namespace CiCoordinator.CiEconomics

open Library Kernel ConfigControl Instant List

def discoveryPageSize : Nat :=
  100

def maxDiscoveryPages : Nat :=
  10

def maxDiscoveryWindowSeconds : Nat :=
  604800

inductive DiscoveryPageTermination where
  | nextPage
  | exhausted
  | truncated
  deriving DecidableEq

/-- The check of a positive safe integer. -/
def positiveId (value : Int) (name : Text) : Py Unit :=
  valueErrorIf (¬ (1 ≤ value ∧ value ≤ maxSafeJsonInteger)) (name ++ ascii " must be a positive safe integer")

structure RunDiscoveryWindowFields where
  createdFrom : Instant
  createdThrough : Instant
  deriving DecidableEq

variable (self : RunDiscoveryWindowFields)

def RunDiscoveryWindowFields.postInit : Py Unit := do
  forEach (fun (value : Instant) =>
      valueErrorIf (value.microsecond ≠ 0) (ascii "discovery window needs aware second-precision timestamps"))
    [self.createdFrom, self.createdThrough]
  valueErrorIf (¬ (self.createdFrom ≤ self.createdThrough ∧
      self.createdThrough.micros - self.createdFrom.micros ≤ secondMicros * maxDiscoveryWindowSeconds))
    (ascii "discovery window must span at most seven days")

/-- A window of whole seconds that spans at most seven days. -/
structure RunDiscoveryWindow extends RunDiscoveryWindowFields where
  admitted : toRunDiscoveryWindowFields.postInit = .ok ()
  deriving DecidableEq

def RunDiscoveryWindow.make (createdFrom createdThrough : Instant) : Py RunDiscoveryWindow :=
  construct (RunDiscoveryWindowFields.postInit ⟨createdFrom, createdThrough⟩) fun admitted =>
    ⟨⟨createdFrom, createdThrough⟩, admitted⟩

structure ProviderRunDiscoveryPageFields where
  scope : RepositoryScope
  window : RunDiscoveryWindow
  pageNumber : Nat
  providerTotal : Nat
  sources : List ProviderRunCollectionSource
  termination : DiscoveryPageTermination
  deriving DecidableEq

namespace ProviderRunDiscoveryPageFields

variable (self : ProviderRunDiscoveryPageFields)

def runIds : List Int :=
  self.sources.map fun source => source.attempt.workflowRunId

/-- The number of runs up to the end of the page. -/
def endOffset : Nat :=
  (self.pageNumber - 1) * discoveryPageSize + self.sources.length

def requireTermination : Py Unit :=
  match self.termination with
  | .exhausted => valueErrorIf (self.endOffset ≠ self.providerTotal)
      (ascii "exhausted page must reach the declared population end")
  | .nextPage => valueErrorIf (self.sources.length ≠ discoveryPageSize ∨ self.providerTotal ≤ self.endOffset ∨
        maxDiscoveryPages ≤ self.pageNumber)
      (ascii "next page requires a full nonterminal page within its budget")
  | .truncated => valueErrorIf (self.providerTotal ≤ self.endOffset)
      (ascii "truncated page requires an unobserved remainder")

def postInit : Py Unit := do
  valueErrorIf (¬ (1 ≤ self.pageNumber ∧ self.pageNumber ≤ maxDiscoveryPages))
    (ascii "discovery page number exceeds its bound")
  valueErrorIf (maxSafeJsonInteger < self.providerTotal)
    (ascii "discovery provider total must be a non-negative safe integer")
  valueErrorIf (discoveryPageSize < self.sources.length ∨ ¬ self.runIds.Nodup)
    (ascii "discovery page must contain at most100 distinct runs")
  valueErrorIf (∃ source ∈ self.sources, source.attempt.scope ≠ self.scope ∨
      ¬ (self.window.createdFrom ≤ source.runCreatedAt ∧ source.runCreatedAt ≤ self.window.createdThrough))
    (ascii "discovery source is outside the exact scope or window")
  valueErrorIf (self.providerTotal < self.endOffset) (ascii "discovery page exceeds the provider population")
  self.requireTermination

end ProviderRunDiscoveryPageFields

/-- A page of runs that the provider has answered for a window. -/
structure ProviderRunDiscoveryPage extends ProviderRunDiscoveryPageFields where
  admitted : toProviderRunDiscoveryPageFields.postInit = .ok ()
  deriving DecidableEq

structure ProviderObservationPageFields where
  page : ProviderRunDiscoveryPage
  workflowIds : List Int
  deriving DecidableEq

def ProviderObservationPageFields.postInit (self : ProviderObservationPageFields) : Py Unit :=
  valueErrorIf (self.workflowIds.length ≠ self.page.sources.length ∨
      ∃ value ∈ self.workflowIds, ¬ (1 ≤ value ∧ value ≤ maxSafeJsonInteger))
    (ascii "observation workflow identities must correspond to every source")

/-- A page with the workflow of each of its runs. -/
structure ProviderObservationPage extends ProviderObservationPageFields where
  admitted : toProviderObservationPageFields.postInit = .ok ()
  deriving DecidableEq

variable {window : RunDiscoveryWindow} {pages : List ProviderObservationPage} {observed : ProviderObservationPage}

@[simp] theorem positiveId_eq_ok {value : Int} {name : Text} {passed : Unit} :
    positiveId value name = .ok passed ↔ 1 ≤ value ∧ value ≤ maxSafeJsonInteger := by
  simp [positiveId]

theorem positiveId_passes {value : Int} {name : Text} (bounds : 1 ≤ value ∧ value ≤ maxSafeJsonInteger) :
    positiveId value name = .ok () :=
  positiveId_eq_ok.mpr bounds

theorem RunDiscoveryWindowFields.postInit_eq_ok : self.postInit = .ok () ↔
    (self.createdFrom.microsecond = 0 ∧ self.createdThrough.microsecond = 0) ∧ self.createdFrom ≤ self.createdThrough ∧
      self.createdThrough.micros - self.createdFrom.micros ≤ secondMicros * maxDiscoveryWindowSeconds := by
  simp only [postInit, bind_unit_eq_ok, forEach_eq_ok, mem_cons, not_mem_nil, or_false, forall_eq_or_imp,
    forall_eq, raiseIf_eq_ok, not_not, ne_eq]

theorem firstPage : 1 ≤ 1 ∧ 1 ≤ maxDiscoveryPages := by
  decide

namespace RunDiscoveryWindow

theorem facts (window : RunDiscoveryWindow) : (window.createdFrom.microsecond = 0 ∧ window.createdThrough.microsecond = 0) ∧
      window.createdFrom ≤ window.createdThrough ∧
      window.createdThrough.micros - window.createdFrom.micros ≤ secondMicros * maxDiscoveryWindowSeconds :=
  (RunDiscoveryWindowFields.postInit_eq_ok _).mp window.admitted

theorem make_ok {first last : Instant} (wholeFirst : first.microsecond = 0) (wholeLast : last.microsecond = 0)
    (ordered : first ≤ last) (short : last.micros - first.micros ≤ secondMicros * maxDiscoveryWindowSeconds) :
    ∃ window, RunDiscoveryWindow.make first last = .ok window ∧ window.createdFrom = first ∧ window.createdThrough = last :=
  ⟨⟨⟨first, last⟩, (RunDiscoveryWindowFields.postInit_eq_ok _).mpr ⟨⟨wholeFirst, wholeLast⟩, ordered, short⟩⟩,
    construct_ok _, rfl, rfl⟩

theorem make_eq_ok {first last : Instant} {window : RunDiscoveryWindow} (made : RunDiscoveryWindow.make first last = .ok window) :
    window.createdFrom = first ∧ window.createdThrough = last := by
  obtain ⟨_, rfl⟩ := construct_eq_ok.mp made
  exact ⟨rfl, rfl⟩

/-- The beginning of an interval of whole seconds, up to a number of seconds, is a window. -/
theorem make_prefix {start finish : Instant} {seconds : Nat} (wholeStart : start.microsecond = 0)
    (wholeFinish : finish.microsecond = 0) (ordered : start ≤ finish)
    (bounded : 1 ≤ seconds ∧ seconds ≤ maxDiscoveryWindowSeconds) :
    ∃ through window, addMicros start (min (finish.micros - start.micros) (secondMicros * seconds)) = .ok through ∧
      RunDiscoveryWindow.make start through = .ok window ∧ window.createdFrom = start ∧ window.createdThrough ≤ finish ∧
      window.createdThrough.micros - start.micros ≤ secondMicros * seconds ∧
      (start < finish → start < window.createdThrough) := by
  rw [le_def] at ordered
  have inRange := finish.inRange
  obtain ⟨through, sum⟩ : ∃ through : Instant, through.micros =
      start.micros + min (finish.micros - start.micros) (secondMicros * seconds) := ⟨⟨_, by omega⟩, rfl⟩
  have short : secondMicros * seconds ≤ secondMicros * maxDiscoveryWindowSeconds := Nat.mul_le_mul_left _ bounded.2
  have wholeThrough : through.microsecond = 0 := by
    simp only [Instant.microsecond, sum, secondMicros] at wholeStart wholeFinish ⊢
    omega
  obtain ⟨window, made, starts, ends⟩ := make_ok wholeStart wholeThrough (by rw [le_def]; omega) (by omega)
  refine ⟨through, window, addMicros_eq_ok.mpr sum, made, starts, ?_, ?_, ?_⟩
  · rw [ends, le_def]
    omega
  · rw [ends]
    omega
  · rw [ends, lt_def, lt_def, sum]
    have positive := bounded.1
    simp only [secondMicros]
    omega

/-- The first half of a window of more than a second is a window. -/
theorem make_half (window : RunDiscoveryWindow)
    (wide : ¬ (window.createdThrough.micros - window.createdFrom.micros) / secondMicros ≤ 1) :
    ∃ middle half, addSeconds window.createdFrom
        ((window.createdThrough.micros - window.createdFrom.micros) / secondMicros / 2) = .ok middle ∧
      RunDiscoveryWindow.make window.createdFrom middle = .ok half ∧ half.createdFrom = window.createdFrom ∧
      half.createdFrom < half.createdThrough ∧ half.createdThrough < window.createdThrough := by
  have facts := window.facts
  have inRange := window.createdThrough.inRange
  have ordered := facts.2.1
  rw [le_def] at ordered
  generalize count : (window.createdThrough.micros - window.createdFrom.micros) / secondMicros = seconds at wide ⊢
  have room : secondMicros * seconds ≤ window.createdThrough.micros - window.createdFrom.micros := by
    rw [← count]
    exact Nat.mul_div_le _ _
  have half : secondMicros * (seconds / 2) < secondMicros * seconds ∧ 0 < secondMicros * (seconds / 2) := by
    simp only [secondMicros]
    omega
  obtain ⟨middle, sum⟩ : ∃ middle : Instant,
      middle.micros = window.createdFrom.micros + secondMicros * (seconds / 2) := ⟨⟨_, by omega⟩, rfl⟩
  obtain ⟨part, made, starts, ends⟩ := make_ok facts.1.1 (microsecond_add facts.1.1 sum) (by rw [le_def]; omega) (by omega)
  refine ⟨middle, part, addSeconds_eq_ok.mpr sum, made, starts, ?_, ?_⟩
  · rw [starts, ends, lt_def]
    omega
  · rw [ends, lt_def]
    omega

end RunDiscoveryWindow

namespace ProviderRunDiscoveryPage

variable (page : ProviderRunDiscoveryPage)

theorem facts : (1 ≤ page.pageNumber ∧ page.pageNumber ≤ maxDiscoveryPages) ∧
    page.sources.length ≤ discoveryPageSize ∧ page.endOffset ≤ page.providerTotal ∧
    page.requireTermination = .ok () := by
  have admitted := page.admitted
  simp only [ProviderRunDiscoveryPageFields.postInit, bind_unit_eq_ok, raiseIf_eq_ok, not_not, not_or, not_lt] at admitted
  exact ⟨admitted.1, admitted.2.2.1.1, admitted.2.2.2.2.1, admitted.2.2.2.2.2⟩

/-- A page that announces a further one is full and leaves room for it. -/
theorem nextPage_facts (next : page.termination = .nextPage) :
    page.sources.length = discoveryPageSize ∧ page.pageNumber < maxDiscoveryPages := by
  have termination := page.facts.2.2.2
  simp only [ProviderRunDiscoveryPageFields.requireTermination, next, raiseIf_eq_ok, not_or, not_not, not_le, ne_eq]
    at termination
  exact ⟨termination.1, termination.2.2⟩

end ProviderRunDiscoveryPage

namespace ProviderObservationPage

theorem facts (observed : ProviderObservationPage) : observed.workflowIds.length = observed.page.sources.length ∧
      ∀ value ∈ observed.workflowIds, 1 ≤ value ∧ value ≤ maxSafeJsonInteger := by
  have admitted := observed.admitted
  simp only [ProviderObservationPageFields.postInit, raiseIf_eq_ok, not_or, not_not, ne_eq] at admitted
  exact ⟨admitted.1, fun value member => by_contra fun outside => admitted.2 ⟨value, member, outside⟩⟩

end ProviderObservationPage

/-- The pages of a window in order, each of them followed by the next. -/
structure PagesInOrder (window : RunDiscoveryWindow) (pages : List ProviderObservationPage) : Prop where
  numbers : pages.map (fun observed => observed.page.pageNumber) = List.range' 1 pages.length
  window : ∀ observed ∈ pages, observed.page.window = window
  followed : ∀ observed ∈ pages.dropLast, observed.page.termination = .nextPage

/-- The pages of a window from the first one on, each of which announces the next. -/
structure Unbroken (window : RunDiscoveryWindow) (pages : List ProviderObservationPage) : Prop where
  numbers : pages.map (fun observed => observed.page.pageNumber) = List.range' 1 pages.length
  window : ∀ observed ∈ pages, observed.page.window = window
  followed : ∀ observed ∈ pages, observed.page.termination = .nextPage

section

variable (unbroken : Unbroken window pages)
include unbroken

theorem Unbroken.append (sameWindow : observed.page.window = window) (number : observed.page.pageNumber = pages.length + 1) :
    (pages ++ [observed]).map (·.page.pageNumber) = List.range' 1 (pages ++ [observed]).length ∧
      ∀ other ∈ pages ++ [observed], other.page.window = window := by
  constructor
  · rw [map_append, unbroken.numbers, length_append, length_singleton, range'_concat]
    simp [number, Nat.add_comm]
  · intro other member
    rcases mem_append.mp member with earlier | last
    · exact unbroken.window other earlier
    · rw [mem_singleton.mp last, sameWindow]

/-- A page of the same window closes the pages before it. -/
theorem Unbroken.close (sameWindow : observed.page.window = window)
    (number : observed.page.pageNumber = pages.length + 1) : PagesInOrder window (pages ++ [observed]) := by
  obtain ⟨numbers, windows⟩ := unbroken.append sameWindow number
  refine ⟨numbers, windows, ?_⟩
  intro other member
  rw [dropLast_concat] at member
  exact unbroken.followed other member

/-- A page that announces a further one leaves the pages unbroken. -/
theorem Unbroken.extend (sameWindow : observed.page.window = window)
    (number : observed.page.pageNumber = pages.length + 1) (announced : observed.page.termination = .nextPage) :
    Unbroken window (pages ++ [observed]) := by
  obtain ⟨numbers, windows⟩ := unbroken.append sameWindow number
  refine ⟨numbers, windows, ?_⟩
  intro other member
  rcases mem_append.mp member with earlier | last
  · exact unbroken.followed other earlier
  · rw [mem_singleton.mp last, announced]

end

end CiCoordinator.CiEconomics

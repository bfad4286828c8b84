import ClassLift.CommandLine.Run
import ClassLift.Proofs.Files

/-!
# What a failed conversion leaves in its output file

A run of the command that converts comes in two parts. It first prepares the
tree that is to be written, and no step of that part touches a file. Then it
saves the tree, and only that changes files. A run that fails before its tree is
written therefore leaves its output file alone, with one exception: if the tree
turns out to have no text, the file has been emptied by then.
-/

namespace ClassLift.CommandLine

namespace Step

variable {α β : Type}

/-- What a step leads to from the given progress. -/
def outcomeFrom (progress : Progress) (step : Step α) : Except Stop α × Progress :=
  step.run.run progress

/-- Whether a step leaves the files alone, be it that it goes on or that it stops. -/
def KeepsFiles (step : Step α) : Prop :=
  ∀ progress, (step.outcomeFrom progress).2.files = progress.files

theorem outcomeFrom_bind (progress : Progress) (first : Step α) (second : α → Step β) :
    (first >>= second).outcomeFrom progress =
      match first.outcomeFrom progress with
      | (.ok value, reached) => (second value).outcomeFrom reached
      | (.error stop, reached) => (.error stop, reached) := by
  have unfolded : (first >>= second).outcomeFrom progress =
      ((ExceptT.bindCont second (first.outcomeFrom progress).1).run
        (first.outcomeFrom progress).2) := rfl
  rw [unfolded]
  rcases first.outcomeFrom progress with ⟨_ | _, reached⟩ <;> rfl

theorem keepsFiles_pure (value : α) : KeepsFiles (pure value) :=
  fun _ => rfl

theorem keepsFiles_throw (stop : Stop) : KeepsFiles (throw stop : Step α) :=
  fun _ => rfl

theorem keepsFiles_get : KeepsFiles (get : Step Progress) :=
  fun _ => rfl

theorem keepsFiles_tell (text : String) : KeepsFiles (tell text) :=
  fun _ => rfl

theorem outcomeFrom_get_bind (progress : Progress) (second : Progress → Step β) :
    (get >>= second).outcomeFrom progress = (second progress).outcomeFrom progress :=
  rfl

theorem outcomeFrom_modify_bind (progress : Progress) (change : Progress → Progress)
    (second : PUnit → Step β) :
    (modify change >>= second).outcomeFrom progress =
      (second ⟨⟩).outcomeFrom (change progress) :=
  rfl

/-- A sequence that goes on to its end has gone on after its first step. -/
theorem exists_of_bind_eq_ok {progress : Progress} {first : Step α} {second : α → Step β}
    {result : β} (goesOn : ((first >>= second).outcomeFrom progress).1 = .ok result) :
    ∃ value reached, first.outcomeFrom progress = (.ok value, reached) ∧
      ((second value).outcomeFrom reached).1 = .ok result := by
  rw [outcomeFrom_bind] at goesOn
  generalize first.outcomeFrom progress = ran at goesOn ⊢
  rcases ran with ⟨stop | value, reached⟩
  · simp at goesOn
  · exact ⟨value, reached, rfl, goesOn⟩

/-- What a sequence does to the files is what its first step does, if the others do nothing. -/
theorem files_bind {second : α → Step β} (keeps : ∀ value, KeepsFiles (second value))
    (first : Step α) (progress : Progress) :
    ((first >>= second).outcomeFrom progress).2.files =
      (first.outcomeFrom progress).2.files := by
  rw [outcomeFrom_bind]
  rcases first.outcomeFrom progress with ⟨stop | value, reached⟩
  · rfl
  · exact keeps value reached

theorem KeepsFiles.bind {first : Step α} {second : α → Step β} (keeps : KeepsFiles first)
    (goesOn : ∀ value, KeepsFiles (second value)) : KeepsFiles (first >>= second) :=
  fun progress => (files_bind goesOn first progress).trans (keeps progress)

theorem keepsFiles_mapM {action : α → Step β} (items : List α)
    (each : ∀ item, KeepsFiles (action item)) : KeepsFiles (items.mapM action) := by
  induction items with
  | nil => exact keepsFiles_pure []
  | cons item rest ih =>
      rw [List.mapM_cons]
      exact (each item).bind fun _ => ih.bind fun _ => keepsFiles_pure _

theorem keepsFiles_ofShown (shown : Except Terminal.MarkupFault α) : KeepsFiles (ofShown shown) := by
  cases shown with
  | ok shown => exact keepsFiles_pure shown
  | error fault => exact keepsFiles_throw _

theorem keepsFiles_say (text : String) : KeepsFiles (say text) :=
  (keepsFiles_ofShown _).bind keepsFiles_tell

theorem keepsFiles_ofConfig (read : Except ConfigFailure α) : KeepsFiles (ofConfig read) := by
  cases read with
  | ok value => exact keepsFiles_pure value
  | error failure => exact keepsFiles_throw _

theorem keepsFiles_ofTraced (verbose : Bool) (traced : Traced α) :
    KeepsFiles (ofTraced verbose traced) := by
  refine (keepsFiles_tell _).bind fun _ => ?_
  cases traced.outcome with
  | ok value => exact keepsFiles_pure value
  | error failure => exact keepsFiles_throw _

theorem keepsFiles_findExisting (path : String) : KeepsFiles (findExisting path) := by
  refine keepsFiles_get.bind fun progress => ?_
  cases progress.files.find path with
  | file _ _ | directory _ => exact keepsFiles_pure _
  | free _ | missing | blocked | tooLong => exact keepsFiles_throw _

end Step

open Step

/-! ## Preparing the tree -/

theorem keepsFiles_loadConfig (path? : Option String) : KeepsFiles (loadConfig path?) := by
  cases path? with
  | none => exact keepsFiles_pure _
  | some path =>
      refine (keepsFiles_say _).bind fun _ => (keepsFiles_findExisting path).bind fun found => ?_
      cases found with
      | file _ text => exact keepsFiles_ofConfig _
      | directory _ | free _ | missing | blocked | tooLong => exact keepsFiles_throw _

theorem keepsFiles_configure (request : ConvertRequest) (config : Config) :
    KeepsFiles (configure request config) :=
  (keepsFiles_ofConfig _).bind fun _ => keepsFiles_pure _

theorem keepsFiles_tellOptions (config : Config) : KeepsFiles (tellOptions config) :=
  (keepsFiles_ofShown _).bind fun _ => keepsFiles_tell _

theorem keepsFiles_tellResults (conversions : List Conversion) :
    KeepsFiles (tellResults conversions) := by
  refine (keepsFiles_mapM _ fun column => ?_).bind fun _ => keepsFiles_tell _
  exact keepsFiles_mapM _ fun row => keepsFiles_ofShown _

/-- What a conversion has before it writes: the tree, how to write it, and what to report. -/
structure Prepared where
  tree : Json
  indent : Bool
  conversions : List Conversion

/-- The generated tree as it is to be written. -/
def Prepared.ofConverted (request : ConvertRequest) (config : Config)
    (converted : Program.Converted) : Prepared where
  tree :=
    if config.output.stripLocations && !request.keepLocations then
      converted.program.stripLocations
    else converted.program
  indent := config.output.indent
  conversions := converted.conversions

/-- Converts what was found at the source. -/
def prepareFrom (request : ConvertRequest) (config : Config) : Found → Step Prepared
  | .file _ text =>
      match Json.ofText? text with
      | none => throw (.other "")
      | some tree => do
          let converted ← ofTraced request.verbose (convertTree config tree)
          return .ofConverted request config converted
  | _ => throw (.ofPath (Path.shown request.source))

/-- The part of a conversion before it writes. -/
def prepare (request : ConvertRequest) : Step Prepared := do
  let source ← findExisting request.source
  let base ← loadConfig (nonEmpty request.config)
  let config ← configure request base
  if request.verbose then tellOptions config
  prepareFrom request config source

/-- The part of a conversion that writes. -/
def deliver (request : ConvertRequest) (prepared : Prepared) : Step Unit := do
  emit prepared.tree (nonEmpty request.output) prepared.indent
  tellResults prepared.conversions

theorem throw_bind {α β : Type} (stop : Stop) (second : α → Step β) :
    (throw stop >>= second : Step β) = throw stop :=
  rfl

theorem prepareFrom_bind_deliver (request : ConvertRequest) (config : Config) (source : Found) :
    prepareFrom request config source >>= deliver request = match source with
      | .file _ text =>
          match Json.ofText? text with
          | none => throw (.other "")
          | some tree => do
              let converted ← ofTraced request.verbose (convertTree config tree)
              let generated :=
                if config.output.stripLocations && !request.keepLocations then
                  converted.program.stripLocations
                else converted.program
              emit generated (nonEmpty request.output) config.output.indent
              tellResults converted.conversions
      | _ => throw (.ofPath (Path.shown request.source)) := by
  cases source with
  | directory _ | free _ | missing | blocked | tooLong => exact throw_bind _ _
  | file _ text =>
      simp only [prepareFrom]
      cases Json.ofText? text with
      | none => exact throw_bind _ _
      | some tree =>
          simp only [bind_assoc, pure_bind]
          rfl

theorem convertSteps_eq (request : ConvertRequest) :
    convertSteps request = prepare request >>= deliver request := by
  simp only [convertSteps, prepare, bind_assoc]
  congr 1
  funext source
  congr 1
  funext base
  congr 1
  funext config
  have delivers := (prepareFrom_bind_deliver request config source).symm
  by_cases isVerbose : request.verbose = true
  · rw [if_pos isVerbose, if_pos isVerbose, bind_assoc]
    congr 1
    funext _
    exact delivers
  · rw [if_neg isVerbose, if_neg isVerbose]
    exact delivers

theorem keepsFiles_prepare (request : ConvertRequest) : KeepsFiles (prepare request) := by
  refine (keepsFiles_findExisting _).bind fun source => ?_
  refine (keepsFiles_loadConfig _).bind fun base => ?_
  refine (keepsFiles_configure request base).bind fun config => ?_
  have prepares : KeepsFiles (prepareFrom request config source) := by
    cases source with
    | file _ text =>
        simp only [prepareFrom]
        cases Json.ofText? text with
        | none => exact keepsFiles_throw _
        | some tree => exact (keepsFiles_ofTraced _ _).bind fun _ => keepsFiles_pure _
    | directory _ | free _ | missing | blocked | tooLong => exact keepsFiles_throw _
  split
  · exact (keepsFiles_tellOptions config).bind fun _ => prepares
  · exact prepares

/-! ## Writing the tree -/

/-- What a run prepares to write; a run that stops before has nothing to write. -/
def prepared? (request : ConvertRequest) (files : Files) : Option Prepared :=
  match ((prepare request).outcomeFrom ⟨"", "", files⟩).1 with
  | .ok prepared => some prepared
  | .error _ => none

/-- Whether a run gets the whole text of its tree into the output file. -/
def WritesOutput (request : ConvertRequest) (files : Files) (output : String) : Prop :=
  ∃ prepared, prepared? request files = some prepared ∧
    (files.saveTree output prepared.tree prepared.indent).failure = none

/-- Whether a run comes as far as emptying the output file, and no further. -/
def LosesOutput (request : ConvertRequest) (files : Files) (output : String) : Prop :=
  ∃ prepared, prepared? request files = some prepared ∧ files.LosesContent output prepared.tree

section Emit

variable (tree : Json) (output : String) (indent : Bool) (progress : Progress)

/-- Saving comes first; the run goes on only after a tree was saved. -/
theorem emit_outcomeFrom :
    (emit tree (some output) indent).outcomeFrom progress =
      let saved := progress.files.saveTree output tree indent
      let reached := { progress with files := saved.files }
      match saved.failure with
      | some (.path failure) => (.error (.ofPathFailure failure), reached)
      | some .noText => (.error (.other ""), reached)
      | none => (say ("[green]✓[/green] Wrote " ++ Path.shown output)).outcomeFrom reached := by
  simp only [emit]
  rw [outcomeFrom_get_bind, outcomeFrom_modify_bind]
  rcases (progress.files.saveTree output tree indent).failure with _ | (_ | _) <;> rfl

theorem emit_files :
    ((emit tree (some output) indent).outcomeFrom progress).2.files =
      (progress.files.saveTree output tree indent).files := by
  rw [emit_outcomeFrom]
  simp only
  split
  · rfl
  · rfl
  · exact keepsFiles_say _ _

theorem failure_eq_none_of_emit
    (emits : ((emit tree (some output) indent).outcomeFrom progress).1 = .ok ()) :
    (progress.files.saveTree output tree indent).failure = none := by
  rw [emit_outcomeFrom] at emits
  generalize saves : progress.files.saveTree output tree indent = saved at emits ⊢
  rcases saved with ⟨files, _ | (failure | _)⟩
  · rfl
  · simp at emits
  · simp at emits

end Emit

/-- The result that a conversion has once it has come to its end. -/
def resultOf (ended : Except Stop Unit × Progress) : Result :=
  match ended.1 with
  | .ok () => ⟨0, ended.2.output, ended.2.report, ended.2.files⟩
  | .error .usage => ⟨2, "", "", ended.2.files⟩
  | .error stop => ⟨1, ended.2.output, ended.2.report ++ stop.report, ended.2.files⟩

theorem runConvert_eq (request : ConvertRequest) (files : Files) :
    runConvert request files =
      resultOf ((prepare request >>= deliver request).outcomeFrom ⟨"", "", files⟩) := by
  rw [← convertSteps_eq]
  rfl

theorem resultOf_files (ended : Except Stop Unit × Progress) :
    (resultOf ended).files = ended.2.files := by
  rcases ended with ⟨stop | _, progress⟩
  · cases stop <;> rfl
  · rfl

theorem eq_ok_of_exitCode {ended : Except Stop Unit × Progress}
    (succeeds : (resultOf ended).exitCode = 0) : ended.1 = .ok () := by
  rcases ended with ⟨stop | _, progress⟩
  · cases stop <;> simp [resultOf] at succeeds
  · rfl

theorem exitCode_of_stop {stop : Stop} (notUsage : stop ≠ .usage) (progress : Progress) :
    (resultOf (.error stop, progress)).exitCode = 1 := by
  cases stop with
  | usage => exact absurd rfl notUsage
  | config _ | conversion _ | other _ | notShown _ => rfl

theorem ofPathFailure_ne_usage (failure : PathFailure) : Stop.ofPathFailure failure ≠ .usage := by
  unfold Stop.ofPathFailure Stop.ofPath
  split <;> simp

section Runs

variable {request : ConvertRequest} {files : Files} {output : String}
  (isOutput : nonEmpty request.output = some output)
include isOutput

/-- What a run does to the files is what saving its tree does to them. -/
theorem runConvert_files_eq :
    (runConvert request files).files =
      match prepared? request files with
      | some prepared => (files.saveTree output prepared.tree prepared.indent).files
      | none => files := by
  have keeps := keepsFiles_prepare request ⟨"", "", files⟩
  rw [runConvert_eq, resultOf_files, outcomeFrom_bind, prepared?]
  generalize (prepare request).outcomeFrom ⟨"", "", files⟩ = ran at keeps ⊢
  rcases ran with ⟨stop | prepared, reached⟩
  · exact keeps
  · simp only [deliver, isOutput]
    rw [files_bind fun _ => keepsFiles_tellResults _, emit_files, keeps]

theorem writesOutput_of_exitCode (succeeds : (runConvert request files).exitCode = 0) :
    WritesOutput request files output := by
  have keeps := keepsFiles_prepare request ⟨"", "", files⟩
  rw [runConvert_eq] at succeeds
  have goesOn := eq_ok_of_exitCode succeeds
  rcases exists_of_bind_eq_ok goesOn with ⟨prepared, reached, prepares, delivers⟩
  have sameFiles : reached.files = files := by simpa [prepares] using keeps
  simp only [deliver, isOutput] at delivers
  rcases exists_of_bind_eq_ok delivers with ⟨_, _, emits, _⟩
  refine ⟨prepared, by rw [prepared?, prepares], ?_⟩
  rw [← sameFiles]
  exact failure_eq_none_of_emit _ _ _ _ (by rw [emits])

/-- A tree that was prepared and not saved makes the run fail as its own error, not as misuse. -/
theorem exitCode_of_failure {prepared : Prepared} (prepares : prepared? request files = some prepared)
    (fails : (files.saveTree output prepared.tree prepared.indent).failure ≠ none) :
    (runConvert request files).exitCode = 1 := by
  have keeps := keepsFiles_prepare request ⟨"", "", files⟩
  rw [runConvert_eq, outcomeFrom_bind]
  rw [prepared?] at prepares
  generalize (prepare request).outcomeFrom ⟨"", "", files⟩ = ran at keeps prepares ⊢
  rcases ran with ⟨stop | other, reached⟩
  · simp at prepares
  obtain rfl : other = prepared := by simpa using prepares
  have sameFiles : reached.files = files := keeps
  simp only [deliver, isOutput]
  rw [outcomeFrom_bind, emit_outcomeFrom, sameFiles]
  generalize files.saveTree output other.tree other.indent = saved at fails ⊢
  rcases saved with ⟨after, _ | (failure | _)⟩
  · simp at fails
  · exact exitCode_of_stop (ofPathFailure_ne_usage failure) _
  · rfl

/-- A run that does not get its tree written loses the content of the output file at most. -/
theorem runConvert_stayUnless (unwritten : ¬WritesOutput request files output) :
    Files.StayUnless (LosesOutput request files output) files (runConvert request files).files
      (Path.ofText output) := by
  rw [runConvert_files_eq isOutput]
  cases prepares : prepared? request files with
  | none =>
      apply Files.StayUnless.refl
      rintro ⟨prepared, alsoPrepares, _⟩
      simp [prepares] at alsoPrepares
  | some prepared =>
      have lostIff : LosesOutput request files output ↔
          files.LosesContent output prepared.tree := by
        simp [LosesOutput, prepares]
      rw [lostIff]
      apply Files.saveTree_stayUnless
      intro saved
      exact unwritten ⟨prepared, prepares, saved⟩

end Runs

/--
A run that does not get its tree written fails. All files stay as they were, but
for the output file of a run that prepared a tree without a text: that one is
empty afterwards. The same holds for saving a tree alone.
-/
theorem output_stays_unless_lost {words : List String} {request : ConvertRequest}
    {output : String} {files : Files} (isConvert : Command.ofWords? words = some (.convert request))
    (isOutput : nonEmpty request.output = some output)
    (unwritten : ¬WritesOutput request files output) (input : List String) :
    (run words files input).exitCode ≠ 0 ∧
      (LosesOutput request files output → (run words files input).exitCode = 1) ∧
      Files.StayUnless (LosesOutput request files output) files (run words files input).files
        (Path.ofText output) ∧
      ∀ path tree indent, (files.saveTree path tree indent).failure ≠ none →
        Files.StayUnless (files.LosesContent path tree) files
          (files.saveTree path tree indent).files (Path.ofText path) := by
  have runs : run words files input = runConvert request files := by simp only [run, isConvert]
  rw [runs]
  refine ⟨?_, ?_, runConvert_stayUnless isOutput unwritten, ?_⟩
  · intro succeeds
    exact unwritten (writesOutput_of_exitCode isOutput succeeds)
  · rintro ⟨prepared, prepares, _⟩
    apply exitCode_of_failure isOutput prepares
    intro saved
    exact unwritten ⟨prepared, prepares, saved⟩
  · intro path tree indent fails
    exact Files.saveTree_stayUnless fails

/-- A directory with a source and an earlier output. -/
def twoFiles (source : String) : Files :=
  ⟨[(["in.json"], source), (["out.json"], "old")], []⟩

def plainWords : List String :=
  ["convert", "in.json", "-o", "out.json"]

def plainRequest : ConvertRequest :=
  ⟨"in.json", some "out.json", none, none, none, none, none, false, false⟩

theorem ofWords?_plainWords : Command.ofWords? plainWords = some (.convert plainRequest) :=
  rfl

/-- With nothing but a source and an output, the default configuration is in effect. -/
theorem prepare_plainRequest (source : String) :
    (prepare plainRequest).outcomeFrom ⟨"", "", twoFiles source⟩ =
      (prepareFrom plainRequest .default (.file ["in.json"] source)).outcomeFrom
        ⟨"", "", twoFiles source⟩ :=
  rfl

theorem prepared?_of_unreadable {source : String} (unreadable : Json.ofText? source = none) :
    prepared? plainRequest (twoFiles source) = none := by
  rw [prepared?, prepare_plainRequest, prepareFrom]
  simp only [unreadable]
  rfl

theorem prepared?_of_converted {source : String} {tree : Json} {converted : Program.Converted}
    (reads : Json.ofText? source = some tree)
    (converts : (convertTree .default tree).outcome = .ok converted) :
    prepared? plainRequest (twoFiles source) =
      some (.ofConverted plainRequest .default converted) := by
  rw [prepared?, prepare_plainRequest, prepareFrom]
  simp only [reads]
  rw [outcomeFrom_bind, ofTraced]
  simp only [converts]
  rfl

/-- A tree without a text costs the earlier output its content. -/
theorem run_plainWords_of_isUnwritable {source : String} {prepared : Prepared}
    (prepares : prepared? plainRequest (twoFiles source) = some prepared)
    (isUnwritable : prepared.tree.IsUnwritable) :
    (run plainWords (twoFiles source) []).exitCode = 1 ∧
      (run plainWords (twoFiles source) []).files.read? ["out.json"] = some "" := by
  have fails := Files.failure_saveTree_of_isUnwritable isUnwritable (twoFiles source) "out.json"
    prepared.indent
  have unwritten : ¬WritesOutput plainRequest (twoFiles source) "out.json" := by
    rintro ⟨other, alsoPrepares, saved⟩
    obtain rfl := Option.some.inj (prepares.symm.trans alsoPrepares)
    exact fails saved
  have before : (twoFiles source).read? (Path.ofText "out.json") = some "old" := rfl
  have isLost : LosesOutput plainRequest (twoFiles source) "out.json" :=
    ⟨prepared, prepares, ⟨(twoFiles source, ["out.json"]), rfl⟩, isUnwritable, by simp [before]⟩
  exact ⟨exitCode_of_failure rfl prepares fails,
    (runConvert_stayUnless rfl unwritten).emptied isLost⟩

def brokenFiles : Files :=
  twoFiles "["

theorem output_stays_unless_lost_brokenFiles :
    Command.ofWords? plainWords = some (.convert plainRequest) ∧
      nonEmpty plainRequest.output = some "out.json" ∧
      ¬WritesOutput plainRequest brokenFiles "out.json" ∧
      (run plainWords brokenFiles []).exitCode ≠ 0 ∧
      (LosesOutput plainRequest brokenFiles "out.json" →
        (run plainWords brokenFiles []).exitCode = 1) ∧
      Files.StayUnless (LosesOutput plainRequest brokenFiles "out.json") brokenFiles
        (run plainWords brokenFiles []).files (Path.ofText "out.json") ∧
      ∀ path tree indent, (brokenFiles.saveTree path tree indent).failure ≠ none →
        Files.StayUnless (brokenFiles.LosesContent path tree) brokenFiles
          (brokenFiles.saveTree path tree indent).files (Path.ofText path) := by
  have unwritten : ¬WritesOutput plainRequest brokenFiles "out.json" := by
    rintro ⟨prepared, prepares, _⟩
    have unprepared : prepared? plainRequest brokenFiles = none :=
      prepared?_of_unreadable (by decide +kernel)
    simp [unprepared] at prepares
  exact ⟨ofWords?_plainWords, rfl, unwritten,
    output_stays_unless_lost ofWords?_plainWords rfl unwritten []⟩

/-- Lists inside one another. -/
def nestedLists : Nat → Json
  | 0 => .arr []
  | depth + 1 => .arr [nestedLists depth]

/-- A call with one datum, an array of nested lists. -/
def deepCall : Json :=
  .arr [Node.literal (.str "Button"), Node.ofType "ObjectExpression" [("properties",
    .arr [Node.ofType "Property" [("key", Node.identifier (.str "grid")),
      ("value", Node.ofType "ArrayExpression" [("elements", nestedLists 250)])]])]]

def deepFiles : Files :=
  twoFiles (deepCall.text false)

theorem ofText?_deepCall : Json.ofText? (deepCall.text false) = some deepCall := by
  -- The characters are read as they are written, without a string between them.
  rw [Json.ofText?, Json.parse?, Json.text, String.toList_ofList]
  decide +kernel

theorem convertTree_deepCall :
    ∃ converted, (convertTree .default deepCall).outcome = .ok converted ∧
      Json.greatestWrittenDepth < converted.program.stripLocations.depth := by
  have isDeep : (convertTree .default deepCall).outcome.toOption.any
      (fun converted => decide
        (Json.greatestWrittenDepth < converted.program.stripLocations.depth)) = true := by
    decide +kernel
  cases converts : (convertTree .default deepCall).outcome with
  | error failure => simp [converts, Except.toOption] at isDeep
  | ok converted => exact ⟨converted, rfl, by simpa [converts, Except.toOption] using isDeep⟩

/-- Converting that call empties the output file, although the run fails. -/
theorem output_stays_unless_lost_deepFiles :
    (run plainWords deepFiles []).exitCode = 1 ∧
      deepFiles.read? ["out.json"] = some "old" ∧
      (run plainWords deepFiles []).files.read? ["out.json"] = some "" := by
  rcases convertTree_deepCall with ⟨converted, converts, isDeep⟩
  have prepares := prepared?_of_converted ofText?_deepCall converts
  rcases run_plainWords_of_isUnwritable prepares (.inr isDeep) with ⟨fails, isEmpty⟩
  exact ⟨fails, rfl, isEmpty⟩

end ClassLift.CommandLine

import FeatureToggles.Proofs.Catalog.Reading
import FeatureToggles.Proofs.Catalog.Refusal
import FeatureToggles.Proofs.Engine.Fetching
import FeatureToggles.Proofs.Json.LineEnd

/-!
# An engine over a file is one over memory

A catalog file may be changed at any time, and an engine over it reads it anew for every question.  So
each answer is the one that an engine over the catalog in memory gives, for the catalog that the file
holds just then; and where the file holds none, every question fails in its way.  The line ends of the
file do not matter, although they are made one before the text is read.

Main statement: `run_refines`.
-/

namespace FeatureToggles

/-! ## What a file holds -/

namespace Catalog

/-- A text holds the catalog that it holds with its line ends made one, whatever it comes from. -/
lemma ofText_unifyNewlines {source source' : String} {cs : List Char} {catalog : Catalog} :
    ofText source (Text.unifyNewlines cs) = .ok catalog ↔ ofText source' cs = .ok catalog := by
  simp only [ofText_eq_ok_iff, Json.ofChars_unifyNewlines]

end Catalog

namespace CatalogFile

/-- Whether a file holds a catalog: it can be looked for, the bytes that stand at its path are a text in its
encoding, and this text is a document of the catalog. -/
def Holds (file : CatalogFile) (state : FileState) (catalog : Catalog) : Prop :=
  ∃ reader bs cs, file.misnamed? = none ∧ file.reader? = some reader ∧ state = .content bs ∧
    reader bs = .ok cs ∧ Catalog.ofText Catalog.memorySource cs = .ok catalog

lemma decode_eq_ok_iff {file : CatalogFile} {bs : List UInt8} {text : List Char} :
    file.decode bs = .ok text ↔ ∃ reader cs, file.misnamed? = none ∧ file.reader? = some reader ∧
      reader bs = .ok cs ∧ Text.unifyNewlines cs = text := by
  unfold decode
  cases file.misnamed? with
  | some fault => simp
  | none =>
      cases file.reader? with
      | none => simp
      | some reader => cases hreader : reader bs <;> simp [hreader]

/-- A fetch gives the catalog that the file holds, and nothing else. -/
lemma outcome_fetch_eq_ok_iff {file : CatalogFile} {state : FileState} {catalog : Catalog} :
    (file.fetch state).outcome = .ok catalog ↔ file.Holds state catalog := by
  constructor
  · intro h
    cases state with
    | absent | denied | directory =>
        cases hnamed : file.misnamed? <;> simp [fetch, read, hnamed] at h
    | content bs =>
        cases hdecode : file.decode bs with
        | error f => simp [outcome_fetch_of_decode_error hdecode] at h
        | ok text =>
            rw [outcome_fetch_of_decode_ok hdecode] at h
            obtain ⟨reader, cs, hnamed, hreader, hcs, rfl⟩ := decode_eq_ok_iff.mp hdecode
            exact ⟨reader, bs, cs, hnamed, hreader, rfl, hcs, Catalog.ofText_unifyNewlines.mp h⟩
  · rintro ⟨reader, bs, cs, hnamed, hreader, rfl, hcs, hcatalog⟩
    have hdecode := decode_eq_ok_iff.mpr ⟨reader, cs, hnamed, hreader, hcs, rfl⟩
    rw [outcome_fetch_of_decode_ok hdecode]
    exact Catalog.ofText_unifyNewlines.mpr hcatalog

end CatalogFile

/-! ## Questions -/

/-- What is asked of an engine, or of its source of catalogs. -/
inductive Query where
  | evaluate (name : String) (value : Value)
  | isEnabled (name : String) (value : Value)
  | find (name : String)
  | fetch
  | missing (names : List String)

/-- What is found out by asking. -/
inductive Finding where
  | active (b : Bool)
  | feature (found : Option Feature)
  | features (catalog : Catalog)
  | names (missing : List String)

namespace Query

/-- Asks an engine over a source of catalogs. -/
def ask {m : Type → Type} [Monad m] (fetch : m Fetched) : Query → m (Except Fault Finding)
  | .evaluate name value => do
    let (answer, _) ← Engine.evaluate fetch name value
    return answer.map .active
  | .isEnabled name value => do
    let (answer, _) ← Engine.isEnabled fetch name value
    return answer.map .active
  | .find name => do
    let fetched ← fetch
    return fetched.outcome.map fun catalog => .feature (catalog.find? name)
  | .fetch => do
    let fetched ← fetch
    return fetched.outcome.map .features
  | .missing names => do
    let (answer, _) ← Engine.missingDependencies fetch names none
    return answer.map .names

/-- How a question fails where there is no catalog.  Without names none of them is missing. -/
def Fails (answer : Except Fault Finding) : Query → Prop
  | .evaluate name _ => ∃ fault f, answer = .error fault ∧ fault.failure = .feature f ∧
      f.feature = name ∧ f.reason = .evaluationFailed
  | .isEnabled _ _ => answer = .ok (.active false)
  | .find _ | .fetch => ∃ fault, answer = .error fault
  | .missing names => names ≠ [] → ∃ fault, answer = .error fault

/-- The answer on what was fetched. -/
def askOn (q : Query) (fetched : Fetched) : Except Fault Finding :=
  Id.run (q.ask (pure fetched))

variable (fetched : Fetched)

@[simp] lemma askOn_evaluate (name : String) (value : Value) :
    askOn (.evaluate name value) fetched =
      (Engine.evaluateOn fetched name value).1.map Finding.active := rfl

@[simp] lemma askOn_isEnabled (name : String) (value : Value) :
    askOn (.isEnabled name value) fetched =
      (Engine.isEnabledOn fetched name value).1.map Finding.active := rfl

@[simp] lemma askOn_find (name : String) :
    askOn (.find name) fetched =
      fetched.outcome.map fun catalog => Finding.feature (catalog.find? name) := rfl

@[simp] lemma askOn_fetch : askOn .fetch fetched = fetched.outcome.map Finding.features := rfl

@[simp] lemma askOn_missing (names : List String) :
    askOn (.missing names) fetched =
      if names.isEmpty then .ok (.names [])
      else fetched.outcome.map fun catalog => Finding.names (catalog.missing names) := by
  cases names with
  | nil => rfl
  | cons name names =>
      change (fetched.outcome.map _).map _ = fetched.outcome.map _
      cases fetched.outcome <;> rfl

variable {fetched}

/-- An answer depends on what came of the fetch. -/
lemma askOn_congr {fetched' : Fetched} (h : fetched.outcome = fetched'.outcome) (q : Query) :
    q.askOn fetched = q.askOn fetched' := by
  cases q with
  | evaluate name value =>
      rw [askOn_evaluate, askOn_evaluate, Engine.evaluateOn_fst_congr h]
  | isEnabled name value =>
      rw [askOn_isEnabled, askOn_isEnabled, Engine.isEnabledOn_fst_congr h]
  | find name => rw [askOn_find, askOn_find, h]
  | fetch => rw [askOn_fetch, askOn_fetch, h]
  | missing names => rw [askOn_missing, askOn_missing, h]

lemma fails_askOn {cause : Fault} (h : fetched.outcome = .error cause) (htexts : cause.HasTexts)
    (q : Query) : q.Fails (q.askOn fetched) := by
  cases q with
  | evaluate name value =>
      obtain ⟨message, causes, -, hanswer⟩ := Engine.evaluateOn_of_fetch_error h htexts name value
      exact ⟨_, _, by rw [askOn_evaluate, hanswer, Except.map], rfl, rfl, rfl⟩
  | isEnabled name value =>
      obtain ⟨message, causes, -, hanswer⟩ := Engine.evaluateOn_of_fetch_error h htexts name value
      rw [Fails, askOn_isEnabled, Engine.isEnabledOn_of_feature hanswer rfl, Except.map]
  | find name => exact ⟨cause, by rw [askOn_find, h, Except.map]⟩
  | fetch => exact ⟨cause, by rw [askOn_fetch, h, Except.map]⟩
  | missing names =>
      intro hnames
      exact ⟨cause, by simp [hnames, h, Except.map]⟩

end Query

/-! ## Runs -/

/-- What happens in a run: the file is changed, or something is asked. -/
inductive Action where
  | place (state : FileState)
  | ask (q : Query)

namespace CatalogSource

/-- Fetches the catalog from what stands at the path of its file at the time. -/
def fetchNow (source : CatalogSource) : StateM FileState Fetched := do
  return source.fetch (← get)

/-- Performs actions one after another, and gives the answers. -/
def run (source : CatalogSource) : List Action → StateM FileState (List (Except Fault Finding))
  | [] => return []
  | .place state :: actions => do
    set state
    source.run actions
  | .ask q :: actions => do
    let answer ← q.ask source.fetchNow
    let answers ← source.run actions
    return answer :: answers

/-- The answers of a run that begins with something at the path of the file. -/
def answers (source : CatalogSource) (state : FileState) (actions : List Action) :
    List (Except Fault Finding) :=
  ((source.run actions).run state).1

variable (source : CatalogSource) (state : FileState)

/-- A question is answered on what is fetched at the time, and leaves the file as it is. -/
lemma run_ask (q : Query) :
    (q.ask source.fetchNow).run state = (q.askOn (source.fetch state), state) := by
  cases q with
  | missing names => cases names <;> rfl
  | _ => rfl

lemma answers_ask (q : Query) (actions : List Action) :
    source.answers state (.ask q :: actions) =
      q.askOn (source.fetch state) :: source.answers state actions := by
  have hask := source.run_ask state q
  unfold answers
  rw [run]
  simp only [StateT.run_bind, hask]
  rfl

/-- A change of the file ends what depends on its earlier content. -/
lemma answers_append_place (before : List Action) (state' : FileState) (after : List Action) :
    source.answers state (before ++ .place state' :: after) =
      source.answers state before ++ source.answers state' after := by
  induction before generalizing state with
  | nil => rfl
  | cons action before ih =>
      cases action with
      | place state'' => exact ih state''
      | ask q => rw [List.cons_append, answers_ask, answers_ask, ih, List.cons_append]

end CatalogSource

namespace CatalogFile

open CatalogSource (answers)

/-- The answers that a run over a file may have.  Where the file holds a catalog, an answer is the one
over this catalog in memory, and otherwise the question fails. -/
inductive Refined (file : CatalogFile) :
    FileState → List Action → List (Except Fault Finding) → Prop where
  | nil (state : FileState) : Refined file state [] []
  | place {state state' : FileState} {actions : List Action} {as : List (Except Fault Finding)} :
      Refined file state' actions as → Refined file state (.place state' :: actions) as
  | held {state : FileState} {q : Query} {actions : List Action} {as : List (Except Fault Finding)}
      {catalog : Catalog} {answer : Except Fault Finding} :
      file.Holds state catalog → answers (.memory catalog) state [.ask q] = [answer] →
      Refined file state actions as → Refined file state (.ask q :: actions) (answer :: as)
  | failed {state : FileState} {q : Query} {actions : List Action}
      {as : List (Except Fault Finding)} {answer : Except Fault Finding} :
      (∀ catalog, ¬ file.Holds state catalog) → q.Fails answer →
      Refined file state actions as → Refined file state (.ask q :: actions) (answer :: as)

/-- A question to an engine over a file is answered as over memory, or fails. -/
lemma refined_ask {file : CatalogFile} {state : FileState} {q : Query} {actions : List Action}
    {as : List (Except Fault Finding)} (h : file.Refined state actions as) :
    file.Refined state (.ask q :: actions) (q.askOn (file.fetch state) :: as) := by
  cases hfetch : (file.fetch state).outcome with
  | ok catalog =>
      have hmemory : (file.fetch state).outcome =
          ((CatalogSource.memory catalog).fetch state).outcome := hfetch
      refine .held (outcome_fetch_eq_ok_iff.mp hfetch) ?_ h
      rw [CatalogSource.answers_ask, ← q.askOn_congr hmemory]
      rfl
  | error cause =>
      refine .failed (fun catalog hholds => ?_) (q.fails_askOn hfetch (hasTexts_of_fetch hfetch)) h
      rw [outcome_fetch_eq_ok_iff.mpr hholds] at hfetch
      cases hfetch

/-- In every run an engine over a file answers as one over memory, for the catalog that the file holds
at the time.  After a change of the file the run goes on as one that begins with the new content. -/
theorem run_refines (file : CatalogFile) (state : FileState) :
    (∀ actions, file.Refined state actions (answers (.file file) state actions)) ∧
      ∀ before state' after, answers (.file file) state (before ++ .place state' :: after) =
        answers (.file file) state before ++ answers (.file file) state' after := by
  refine ⟨fun actions => ?_, CatalogSource.answers_append_place (.file file) state⟩
  induction actions generalizing state with
  | nil => exact .nil state
  | cons action actions ih =>
      cases action with
      | place state' => exact .place (ih state')
      | ask q =>
          rw [CatalogSource.answers_ask]
          exact refined_ask (ih state)

example : (ofPath "features.json" defaultEncoding).Holds
    (.content [0x5B, 0x0D, 0x0A, 0x5D, 0x0D]) [] :=
  ⟨_, _, "[\r\n]\r".toList, by decide +kernel, rfl, rfl, by cbv, by cbv⟩

end CatalogFile

end FeatureToggles

import SqlProxy.Disguise
import SqlProxy.Noninterference
import SqlProxy.PiiSoundness

/-! Two deployments whose databases differ only in what the masks hide: no order of requests, and
no reader of the audit file, can tell the one from the other. -/
namespace SqlProxy.Deployment
open ByteText CallProgram Config Json Monitor PiiMasker PostgresQueryExecutor ProxyService Routes

/-- Of the texts `Asked`, results that agree but for what the masks hide. -/
def masked (lib : Bytes → Except Exception Hsql.SQLParserResult) (Asked : Bytes → Prop) :
    Disguise where
  texts sql sql' := sql = sql' ∧ Asked sql
  results sql _ r r' := ∀ a, Analyzed lib sql a → Agree (classes a r).columns r r'
  told := Eq

/-- A request that asks for no other statements than these. -/
def Asks (json : Library Exception) (Asked : Bytes → Prop) : Endpoint → Prop
  | .query request => ∀ sql, Carries json request sql → Asked sql
  | .health => True

section Masked
variable {lib : Bytes → Except Exception Hsql.SQLParserResult} {Asked : Bytes → Prop}

theorem masked_sound : (masked lib Asked).Sound lib where
  blank sql sql' h := congrArg SqlAnalyzer.isBlank h.1
  parsed sql sql' h := congrArg (HyriseAdapter.parse lib) h.1
  caught sql sql' e a _ := by cases e <;> exact ⟨rfl, rfl, rfl, rfl, .nil⟩
  concluded sql sql' a r r' timestampMs requestId _ ha h := by
    rw [conclude_congr timestampMs requestId (h a ha)]
    exact .refl (fun p => ⟨rfl, rfl⟩) _
  same _ := rfl
  answered result result' appended h := congrArg (answer · appended) h

theorem twins_of_asks {json : Library Exception} {endpoint : Endpoint}
    (h : Asks json Asked endpoint) : (masked lib Asked).Twins json endpoint endpoint := by
  cases endpoint with
  | health => exact .health
  | query request =>
    cases hcheck : checkRequest json request with
    | error failure => exact .rejected hcheck hcheck
    | ok sql =>
      have hcarries := checkRequest_ok.mp hcheck
      exact .query hcarries hcarries ⟨rfl, h sql hcarries⟩

theorem eq_of_masked_calls {c c' : Call} (h : ((masked lib Asked).ports lib).calls c c') :
    c = c' := by
  change (masked lib Asked).PortCalls lib c c' at h
  cases h with
  | same => rfl
  | parse ht => exact congrArg Call.parse ht.1
  | execute hsubmits => exact congrArg Call.execute hsubmits.1.1

end Masked

/-- What shows of a server outside its database. -/
structure View (ι : Type) where
  owner : Option ι
  nextRequestId : UInt64
  audit : OFStream
  clients : ι → Seen Call Exception Response Endpoint

def view {ι δ : Type} (s : Server ι δ) : View ι where
  owner := s.owner
  nextRequestId := s.state.nextRequestId
  audit := s.state.audit
  clients i := (s.clients i).seen

/-- Where two databases answer the statements that the clients ask for alike but for what the masks
hide, the requests, the responses and the audit file do not tell them apart, in any order of
steps and however clients choose what they ask next. -/
theorem masked_data_secret {δ δ' ι : Type} [DecidableEq ι] (w : Wiring δ) (effect' : Effect δ')
    (Asked : Bytes → Prop) (D : δ → δ' → Prop) (init : Stack δ) (data' : δ')
    (hforth : (masked w.hsqlParse Asked).Mirrors w.hsqlParse w.config D w.effect effect')
    (hback : (masked w.hsqlParse Asked).swap.Mirrors w.hsqlParse w.config
      (fun data' data => D data data') effect' w.effect)
    (hdata : D init.data data') :
    Bisimilar
      (StepOf mutexUse (Answers w) (serve w.json) (Asks w.json Asked))
      (StepOf mutexUse (Answers (w.over effect')) (serve w.json) (Asks w.json Asked))
      (view : Server ι δ → View ι) view { state := init } { state := init.before data' } := by
  obtain ⟨json, lib, config, effect⟩ := w
  let twins (endpoint endpoint' : Endpoint) : Prop := endpoint = endpoint' ∧ Asks json Asked endpoint
  have htwins (endpoint endpoint' : Endpoint) (h : twins endpoint endpoint') :
      (masked lib Asked).Twins json endpoint endpoint' := h.1 ▸ twins_of_asks h.2
  refine Disguise.bisimilar json masked_sound hforth hback htwins (fun endpoint => ?_)
    (fun endpoint => ?_) (R := Eq) (fun r => rfl) (fun result result' h => congrArg _ h)
    (fun s t hbeside => ?_) ⟨rfl, rfl, hdata⟩
  · exact ⟨fun h => ⟨endpoint, rfl, h⟩, fun ⟨_, _, h⟩ => h⟩
  · exact ⟨fun h => ⟨endpoint, rfl, h⟩, fun ⟨_, hsame, h⟩ => hsame ▸ h⟩
  · have hclients : (fun i => (s.clients i).seen) = fun i => (t.clients i).seen :=
      funext fun i => (hbeside.clients i).seen (fun _ _ h => h.1) (fun _ _ => eq_of_masked_calls)
        fun _ _ h => h
    simp only [view, hbeside.owner, hbeside.state.nextRequestId, hbeside.state.audit, hclients]

def addressQuery : Bytes := ascii "SELECT email FROM customers"

/-- The address of the one customer. -/
def addressAnswer (address : Bytes) : PqxxResult where
  columns := [(ascii "email", 25)]
  size := 1
  field := fun _ _ => some address
  affectedRows := 1

/-- The data are that address. -/
def addressBook : Wiring Bytes where
  json := Compact.library .foreign
  hsqlParse := libraryOf (.select (customersSelect (ascii "email") none))
  config := {}
  effect := fun sql address answer address' =>
    answer = (if sql = addressQuery then addressAnswer address else oneRow) ∧ address' = address

/-- Addresses of which the masks show the same. -/
def MaskedSame (address address' : Bytes) : Prop := CellAgree .email (some address) (some address')

theorem addressAnswer_agree {address address' sql : Bytes} (h : MaskedSame address address')
    (a : SqlAnalysis) (ha : Analyzed addressBook.hsqlParse sql a) :
    Agree (classes a (translate (addressAnswer address))).columns
      (translate (addressAnswer address)) (translate (addressAnswer address')) := by
  obtain ⟨stmts, ⟨-, result, hlib, -, rfl⟩, -, rfl⟩ := ha
  cases hlib
  have hclasses : (classifier.classify (selectAnalysis (customersSelect (ascii "email") none))
      [{ name := ascii "email", type := .text }]).columns = [DataClassifier.pii .email] := by
    decide +kernel
  refine ⟨rfl, rfl, rfl, rfl, .cons ⟨rfl, ?_⟩ .nil⟩
  intro i c x y hc hx hy
  cases i with
  | zero =>
    cases (congrArg (fun columns => columns[0]?) hclasses).symm.trans hc
    cases hx
    cases hy
    exact h
  | succ i => cases hx

def addressTexts : Disguise := masked addressBook.hsqlParse (fun sql => sql = addressQuery)

theorem addressTexts_results {sql sql' address address' : Bytes} (h : MaskedSame address address')
    (hsubmits : addressTexts.Submits addressBook.hsqlParse sql sql') :
    addressTexts.results sql sql'
      (translate (if sql = addressQuery then addressAnswer address else oneRow))
      (translate (if sql' = addressQuery then addressAnswer address' else oneRow)) := by
  obtain ⟨rfl, hquery⟩ := hsubmits.1
  rw [if_pos hquery, if_pos hquery]
  exact addressAnswer_agree h

theorem masked_data_secret_addresses :
    Bisimilar
      (StepOf mutexUse (Answers addressBook) (serve addressBook.json)
        (Asks addressBook.json fun sql => sql = addressQuery))
      (StepOf mutexUse (Answers (addressBook.over addressBook.effect)) (serve addressBook.json)
        (Asks addressBook.json fun sql => sql = addressQuery))
      (view : Server Bool Bytes → View Bool) view
      { state := .opened true [] (ascii "ada@example.org") }
      { state := (Stack.opened true [] (ascii "ada@example.org")).before
          (ascii "alan.turing@example.org") } := by
  refine masked_data_secret addressBook addressBook.effect (fun sql => sql = addressQuery)
    MaskedSame (.opened true [] (ascii "ada@example.org")) (ascii "alan.turing@example.org")
    ?_ ?_ ⟨by decide, fun _ => by decide⟩
  · rintro sql sql' address address' answer view - h ⟨rfl, rfl⟩
    exact ⟨_, address', ⟨rfl, rfl⟩, h, addressTexts_results h⟩
  · rintro sql' sql address' address answer view - h ⟨rfl, rfl⟩
    exact ⟨_, address, ⟨rfl, rfl⟩, h, fun hsubmits => addressTexts_results h hsubmits.swap⟩

end SqlProxy.Deployment

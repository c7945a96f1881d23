import LateBinding.Proofs.Session.Atomicity
import LateBinding.Proofs.Session.Operations
import LateBinding.Proofs.Session.Order

/-!
# Operations that are repeated

As long as nothing is unloaded, an operation that has succeeded once is served by the same invoker
whenever it is repeated, out of what is remembered. Only what a native body asks for on its own
account may be new.

Main statement: `Session.repetition_hits`.
-/

namespace LateBinding

open Run

namespace Session

variable {s : Session} {r r' : Request} {a : Answer} {c : Category} {i : Inquiry c}
  {held : Stamped c.Item} {t : State}

/-! ### What serves a request -/

/-- The request is served by the invoker: it is given to it in some state, and all that is left of
the request is to run it there. -/
structure ServedBy (s : Session) (r : Request) {c : Category} (i : Inquiry c)
    (held : Stamped c.Item) (t : State) : Prop where
  inquiry : r.inquiry? s.config = some ⟨c, i⟩
  asked : s.binder.inquire i s.state = .ok held t
  served : r.perform s.binder s.state = r.serve s.binder.toContext c held.value t

lemma servedBy_of_inquire (hr : r.Operates) (hi : r.inquiry? s.config = some ⟨c, i⟩)
    (hasked : s.binder.inquire i s.state = .ok held t) : s.ServedBy r i held t := by
  refine ⟨hi, hasked, ?_⟩
  rcases hr.goes s.binder with ⟨c', i', hi', hperform⟩ | ⟨hnone, -⟩
  · cases hi.symm.trans hi'
    rw [hperform]
    exact bind_eq_of_ok hasked
  · cases hi.symm.trans hnone

/-- A request that has succeeded has been served. -/
lemma exists_servedBy (hr : r.Operates) (ha : (s.run fun b => r.perform b).1 = .ok a) :
    ∃ c, ∃ i : Inquiry c, ∃ held t, s.ServedBy r i held t := by
  rw [run_fst] at ha
  have hok := answer_eq_ok ha
  rcases hr.goes s.binder with ⟨c, i, hi, hperform⟩ | ⟨-, e, hthrow⟩
  · rw [hperform] at hok
    obtain ⟨held, t, hasked, -⟩ := exists_of_ok hok
    exact ⟨c, i, held, t, servedBy_of_inquire hr hi hasked⟩
  · rw [hthrow] at ha
    cases ha

/-! ### What stays remembered -/

/-- All that an inquiry asks for is remembered in the session. -/
def Holds (s : Session) (i : Inquiry c) (held : Stamped c.Item) : Prop :=
  i.Held s.registry s.config s.state.caches held

/-- Once a request has been served, what it has asked for is remembered, whatever its invoker has
done. -/
lemma ServedBy.holds (h : s.ServedBy r i held t) (hs : Orderly s) :
    (s.run fun b => r.perform b).2.Holds i held := by
  obtain ⟨hsound, hheld⟩ := Inquiry.held_of_inquire hs.lookups h.asked
  have haccord := accord_remembering s.registry s.config s.config.remembersLookups t.caches
  have hserve : Binder.InStep s.registry s.config s.config.remembersLookups
      s.config.remembersLookups (fun u v => u = v ∧ Remembering s.registry t.caches u)
      fun b => r.serve b.toContext c held.value := fun _ _ hn =>
    r.serve_inStep (c.relates (haccord.contexts s.registry hn) held.value fun _ _ => trivial)
  have hend := haccord.after_scripted hserve ⟨hsound, .refl _⟩
  rw [run_snd, h.served]
  exact hheld.extend hend.old

/-- Whatever else happens, it stays remembered as long as nothing is unloaded. -/
lemma Holds.step (h : s.Holds i held) (hs : Orderly s) {x : Step}
    (hx : ∀ type, x ≠ .unload type) : (s.step x).2.Holds i held := by
  have htakes := takes_step s x
  generalize s.step x = result at htakes
  cases htakes with
  | registered hr =>
    obtain ⟨rfl, -, base, d, hreg⟩ := Registry.registered_of_register hr
    exact Inquiry.Held.registered h hs.valid hreg
  | unloaded => exact absurd rfl (hx _)
  | request r =>
    have haccord := accord_remembering s.registry s.config s.config.remembersLookups
      s.state.caches
    have hend := haccord.after_scripted (haccord.perform r) ⟨hs.lookups, .refl _⟩
    rw [run_snd]
    exact Inquiry.Held.extend h hend.old
  | _ => exact h

lemma Holds.follow (h : s.Holds i held) (hs : Orderly s) {ys : List Step}
    (hys : ∀ type, .unload type ∉ ys) : (s.follow ys).2.Holds i held := by
  induction ys generalizing s with
  | nil => exact h
  | cons y ys ih =>
    refine ih (h.step hs fun type hy => ?_) (hs.step y) fun type hmem => ?_
    · exact hys type (hy ▸ List.mem_cons_self)
    · exact hys type (List.mem_cons_of_mem y hmem)

/-- A request that has been served once is served by the same invoker when it is repeated, and
until then nothing happens but that a hit is counted for each question. -/
lemma Holds.servedBy (h : s.Holds i held) (hs : Orderly s) (hr : r.Operates)
    (hi : r.inquiry? s.config = some ⟨c, i⟩) :
    s.ServedBy r i held (s.state.hits (i.questions s.config)) :=
  servedBy_of_inquire hr hi (Inquiry.inquire_of_held hs.lookups h)

/-- If the invoker has no body, nothing else happens to the caches. -/
lemma ServedBy.caches_run (h : s.ServedBy r i held t) (hbodiless : c.Bodiless held.value) :
    (s.run fun b => r.perform b).2.state.caches = t.caches := by
  rw [run_snd, h.served]
  exact Request.caches_serve (Script.idle_run s.registry s.config) hbodiless r t

/-! ### Invokers without bodies -/

/-- What is remembered has no body if no member has one that its key can stand for. -/
lemma Visited.bodilessSound (h : Visited s) : BodilessSound s.registry s.state.caches := by
  induction h with
  | start config => exact Caches.All.empty
  | @step s h x ih =>
    have hs := h.orderly
    have htakes := takes_step s x
    generalize s.step x = result at htakes
    cases htakes with
    | registered hr =>
      obtain ⟨rfl, -, base, d, hreg⟩ := Registry.registered_of_register hr
      exact ih.registered hs.valid hreg
    | unloaded hu hpurge =>
      have hkept := ih.unloaded hs.valid (Registry.unloaded_of_unload hu)
      rwa [hpurge] at hkept
    | request r =>
      have hkept := kept_bodilessSound hs.valid hs.consistent s.config
      have hend := hkept.scripted ((hkept.accord _).perform r) ⟨rfl, hs.lookups, ih⟩
      rw [run_snd]
      exact hend.2.2
    | _ => exact ih
  | purge _ types ih => exact Caches.All.purge ih types
  | clear _ ih => exact fun c _ _ _ hk => by cases c <;> cases hk

/-- A request is served by an invoker without a body if no member has one that it may be made
from. -/
lemma ServedBy.bodiless (h : s.ServedBy r i held t) (hs : Visited s)
    (hi : i.WithoutBodies s.registry) : c.Bodiless held.value := by
  have hsound := (hs.request r).bodilessSound
  obtain ⟨key, hkey, hheld⟩ := (h.holds hs.orderly).key
  rw [run_snd] at hsound hheld hkey
  exact hsound c key held i.ne_lookups hheld (hi key hkey)

/-! ### Repeating a request -/

/-- Once a request has succeeded, in any session that may be visited, every repetition is served by
the same invoker, with any requests and registrations in between but no unload. Before the invoker
is run a hit is counted for each lookup and for the invoker itself, which are the same ones each
time; there is no miss and no new entry. If the invoker has no body, nothing else happens to the
caches; it has none if none of the members has one that it may be made from. -/
theorem repetition_hits (h : Visited s) (hr : r.Operates)
    (ha : (s.run fun b => r.perform b).1 = .ok a) :
    ∃ c, ∃ i : Inquiry c, ∃ held t, s.ServedBy r i held t ∧
      (i.WithoutBodies s.registry → c.Bodiless held.value) ∧
      ∀ ys : List Step, (∀ type, .unload type ∉ ys) → ∀ r' : Request, r'.Repeats r →
        let s' := ((s.run fun b => r.perform b).2.follow ys).2
        ∃ t', s'.ServedBy r' i held t' ∧ t'.store = s'.state.store ∧
          (∀ d, t'.caches.memo d =
            (s'.state.caches.memo d).withHits ((i.questions s.config).count d)) ∧
          (c.Bodiless held.value →
            (s'.run fun b => r'.perform b).2.state.caches = t'.caches) := by
  obtain ⟨c, i, held, t, hserved⟩ := exists_servedBy hr ha
  refine ⟨c, i, held, t, hserved, hserved.bodiless h, fun ys hys r' hrepeats => ?_⟩
  intro s'
  have hdone : Orderly (s.run fun b => r.perform b).2 := h.orderly.step (.request r)
  have hheld : s'.Holds i held := (hserved.holds h.orderly).follow hdone hys
  have hconfig : s'.config = s.config :=
    (config_follow _ ys).trans (config_run s r)
  have hinquiry : r'.inquiry? s'.config = some ⟨c, i⟩ := by
    rw [hconfig, hrepeats.inquiry?_eq, hserved.inquiry]
  have hserved' := hheld.servedBy (hdone.follow ys) hrepeats.operates hinquiry
  exact ⟨_, hserved', rfl, fun d => hconfig ▸ s'.state.caches.memo_hits _ d, hserved'.caches_run⟩

/-! ### Setting two members again -/

/-- A type with a field and an automatic property. -/
def spanSpec : TypeSpec where
  name := "Span"
  members := [.field { name := "first", type := TypeId.int, visibility := .everywhere },
    .property { name := "Last", type := TypeId.int, body := .auto false }]

def spanShape : Shape :=
  ⟨⟨64⟩, "Span", some TypeId.object, false, [⟨64⟩, TypeId.object],
    ["first", "<Last>k__BackingField"], []⟩

/-- Two instances have been made. -/
def spanSession : Session :=
  let s := (({} : Session).step (.register spanSpec)).2
  let s := (s.run fun b => (Request.create ⟨64⟩ none []).perform b).2
  (s.run fun b => (Request.create ⟨64⟩ none []).perform b).2

/-- Sets both members of an instance. -/
def spanRequest (r : Ref) (first last : Int64) : Request :=
  .setAll (.instance (.object spanShape r)) [("first", .int first), ("Last", .int last)] none

/-- A type is registered, a member is read, and the request itself is repeated. -/
def spanSteps : List Step :=
  [.register { name := "Other" },
    .request (.get (.instance (.object spanShape 0)) (.single .field) "first" none),
    .request (spanRequest 0 5 7)]

lemma bodiless_spanSession : Bodiless spanSession := by
  have hspec : spanSpec.Bodiless := by
    rintro _ (_ | ⟨_, _ | ⟨_, ⟨⟩⟩⟩)
    · exact .field _
    · exact .auto rfl
  exact (((Bodiless.start {}).step_register (by decide) hspec).request _).request _

/-- Setting the members of the other instance later on counts two lookups and one invoker as hits,
and nothing else. -/
theorem repetition_hits_spanSession :
    let done := spanSession.run fun b => (spanRequest 0 1 2).perform b
    let s' := (done.2.follow spanSteps).2
    Visited spanSession ∧ (spanRequest 0 1 2).Operates ∧ (∃ a, done.1 = .ok a) ∧
    (∀ type, .unload type ∉ spanSteps) ∧ (spanRequest 1 3 4).Repeats (spanRequest 0 1 2) ∧
    ∀ d, (s'.run fun b => (spanRequest 1 3 4).perform b).2.state.caches.memo d =
      (s'.state.caches.memo d).withHits ([.lookups, .lookups, .batchSetters].count d) := by
  dsimp only
  have hvisited : Visited spanSession :=
    (((Visited.start {}).step (.register spanSpec)).request _).request _
  obtain ⟨a, ha⟩ : ∃ a, (spanSession.run fun b => (spanRequest 0 1 2).perform b).1 = .ok a :=
    exists_of_isOk (by decide +kernel)
  have hsteps : ∀ type, .unload type ∉ spanSteps := by
    intro type h
    simp [spanSteps] at h
  have hrepeats : (spanRequest 1 3 4).Repeats (spanRequest 0 1 2) := by
    have halike : (Subject.instance (.object spanShape 1)).Alike
        (.instance (.object spanShape 0)) := .instance rfl
    have hnames : [("first", Value.int 3), ("Last", .int 4)].map (·.1) =
        [("first", Value.int 1), ("Last", .int 2)].map (·.1) := rfl
    exact .setAll halike hnames none
  have hoperates : (spanRequest 0 1 2).Operates := trivial
  refine ⟨hvisited, hoperates, ⟨a, ha⟩, hsteps, hrepeats, fun d => ?_⟩
  obtain ⟨c, i, held, t, hserved, hplain, hrepetition⟩ := repetition_hits hvisited hoperates ha
  obtain ⟨t', -, -, hhits, hcaches⟩ := hrepetition spanSteps hsteps _ hrepeats
  have hbodiless := hplain fun key _ => bodiless_spanSession.allBodiless.withoutBodies c key
  have hinquiry := hserved.inquiry
  have hconfig : spanSession.config = {} :=
    (config_run _ _).trans <| (config_run _ _).trans <| config_step {} (.register spanSpec)
  rw [hconfig] at hinquiry hhits
  have hknown : (spanRequest 0 1 2).inquiry? {} =
    some ⟨.batchSetters, .batchSetter ⟨64⟩ .instanceAny ["first", "Last"]⟩ := rfl
  cases hknown.symm.trans hinquiry
  have hquestions : (Inquiry.batchSetter ⟨64⟩ .instanceAny ["first", "Last"]).questions {} =
      [.lookups, .lookups, .batchSetters] := rfl
  rw [hquestions] at hhits
  exact (congrArg (Caches.memo · d) (hcaches hbodiless)).trans (hhits d)

/-! ### Bodies that ask for more -/

/-- A constructor body that reads a field by its name from its second run on. -/
def seenBody : Script :=
  [.ifNull (.staticField "seen") [.setStaticField "seen" (.literal (.int 1))]
    [.log (.member .receiver "x")]]

/-- A type with this constructor. -/
def seenSpec : TypeSpec where
  name := "Base"
  members := [.field { name := "seen", type := TypeId.object, isStatic := true },
    .field { name := "x", type := TypeId.int, visibility := .everywhere },
    .constructor { body := seenBody }]

/-- The type, and one that derives from it and has the implicit constructor only. -/
def seenSession : Session :=
  (({} : Session).follow [.register seenSpec, .register { name := "Derived", base := ⟨64⟩ }]).2

/-- A getter body that reads a field by its name from its second run on. -/
def readyBody : Script :=
  [.ifNull (.field "ready") [.setField "ready" (.literal (.int 1))]
    [.result (.member .receiver "x")]]

/-- A type with a property that is read by this body. -/
def readySpec : TypeSpec where
  name := "Meter"
  members := [.field { name := "ready", type := TypeId.object },
    .field { name := "x", type := TypeId.int, visibility := .everywhere },
    .property { name := "P", type := TypeId.int, body := .native (some readyBody) none }]

def readyShape : Shape :=
  ⟨⟨64⟩, "Meter", some TypeId.object, false, [⟨64⟩, TypeId.object], ["ready", "x"], []⟩

/-- The type and an instance of it. -/
def readySession : Session :=
  (({} : Session).follow [.register readySpec, .request (.create ⟨64⟩ none [])]).2

/-- A request succeeds, and when it is repeated at once it is to blame for a getter that is made. -/
def MakesMore (s : Session) (r : Request) : Prop :=
  let once := s.run fun b => r.perform b
  let twice := once.2.run fun b => r.perform b
  (∃ a, once.1 = .ok a) ∧
    (once.2.state.caches.memo .getters).stats = ⟨0, 0, 0⟩ ∧
    (twice.2.state.caches.memo .getters).stats = ⟨0, 1, 1⟩

/-- An implicit constructor runs the constructor of the base, and an accessor that comes with a
property runs the body of the property. What such a body asks for on its own account may be new at
the second time. -/
theorem not_repetition_hits_seenSession :
    (Visited seenSession ∧ seenSession.MakesMore (.create ⟨65⟩ none [])) ∧
    Visited readySession ∧
      readySession.MakesMore (.call (.instance (.object readyShape 0)) "get_P" none []) :=
  ⟨⟨(Visited.start {}).follow _, exists_of_isOk (by decide +kernel), by decide +kernel,
      by decide +kernel⟩,
    (Visited.start {}).follow _, exists_of_isOk (by decide +kernel), by decide +kernel,
      by decide +kernel⟩

end Session

end LateBinding

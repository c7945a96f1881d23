import LateBinding.Proofs.Run.PlainInvokers
import LateBinding.Proofs.Session.History

/-!
# The binder keeps storage well typed

Every operation of the binder that goes to a member by name finds the member, gets an invoker of a
plain member from the caches, and runs it. It is safe as soon as the values that it is given are
sound, and then what it gives is sound too.

Main statement: `Request.perform_safe`.
-/

namespace LateBinding

open Registry Run

/-! ### Values of requests and answers -/

/-- The instance that a request is about. -/
def Subject.values : Subject → List Value
  | .instance v => [v]
  | .type _ => []

namespace Request

/-- The values that a request hands over. -/
def values : Request → List Value
  | get subject _ _ _ => subject.values
  | set subject _ _ new _ => new :: subject.values
  | setAll subject values _ => subject.values ++ values.map (·.2)
  | call subject _ _ arguments => subject.values ++ arguments
  | create _ _ arguments => arguments
  | copy source target _ => [source, target]
  | _ => []

/-- The request goes to its members by name: not to the elements of an array, and not to an invoker
that somebody has kept. -/
def ByName : Request → Prop
  | getAt _ _ | setAt _ _ _ | useGetter _ _ | useSetter _ _ _ | useMethod _ _ _
  | useConstructor _ _ => False
  | _ => True

end Request

/-- The values that an answer gives. -/
def Answer.values : Answer → List Value
  | value v => [v]
  | call result arguments => result :: arguments
  | _ => []

/-! ### Operations -/

variable {reg : Registry} {st₀ : Store} {next : TypeId} {plan : Plan} {native : Native}
  {config : Config} (hv : Settled reg st₀) (hall : reg.AllPlain) (hn : native.Idle)

lemma Subject.receiver_sound {subject : Subject}
    (h : ∀ v ∈ subject.values, v.Sound reg plan) : subject.receiver.Sound reg plan := by
  cases subject with
  | «instance» v => exact h v List.mem_cons_self
  | type t => exact Value.IsBasic.sound ⟨rfl, rfl⟩

namespace Binder

lemma found_safe {sort : InvokerSort} {type : TypeId} {q : Query} (h : Asks config sort type q) :
    ((Binder.of reg config native).member type q).Safe reg next plan
      fun _ m => reg.Finds config sort type m :=
  (Binder.member_safe h.ofRequest config native type).mono fun _ _ hm => ⟨q, h, hm⟩

include hv hall

/-! ### Fields and properties -/

lemma getter_safe (type : TypeId) (kinds : KindSet) (name : String) (flags : Flags) :
    ((Binder.of reg config native).getter type kinds name flags).Safe reg next plan
      fun _ g => g.value.Plain := by
  refine (found_safe (.getter type kinds name flags)).bind fun _ m _ hm => ?_
  exact Run.fetch_safe hv hall (.invoker .getter hm)

lemma setter_safe (type : TypeId) (kinds : KindSet) (name : String) (flags : Flags) :
    ((Binder.of reg config native).setter type kinds name flags).Safe reg next plan
      fun _ s => s.value.Plain reg := by
  refine (found_safe (.setter type kinds name flags)).bind fun _ m _ hm => ?_
  exact Run.fetch_safe hv hall (.invoker .setter hm)

lemma get_safe {subject : Subject} (hs : ∀ v ∈ subject.values, v.Sound reg plan)
    (kinds : KindSet) (name : String) (flags : Option Flags) :
    ((Binder.of reg config native).get subject kinds name flags).Safe reg next plan
      fun plan' v => v.Sound reg plan' := by
  have hr := Subject.receiver_sound hs
  refine (Safe.ofExcept _).bind fun plan₁ type hplan₁ _ => ?_
  refine (getter_safe hv hall type kinds name _).bind fun plan₂ g hplan₂ hg => ?_
  exact g.value.run_safe hg (hr.mono (hplan₁.trans hplan₂))

lemma set_safe {subject : Subject} (hs : ∀ v ∈ subject.values, v.Sound reg plan) {new : Value}
    (hnew : new.Sound reg plan) (kinds : KindSet) (name : String) (flags : Option Flags) :
    ((Binder.of reg config native).set subject kinds name new flags).Safe reg next plan
      fun _ _ => True := by
  have hr := Subject.receiver_sound hs
  refine (Safe.ofExcept _).bind fun plan₁ type hplan₁ _ => ?_
  refine (setter_safe hv hall type kinds name _).bind fun plan₂ s hplan₂ hs => ?_
  have hplan := hplan₁.trans hplan₂
  exact s.value.run_safe hv hs (hr.mono hplan) (hnew.mono hplan)

omit hv hall in
lemma membersNamed_safe (type : TypeId) (flags : Flags) (names : List String) :
    ((Binder.of reg config native).membersNamed type flags names).Safe reg next plan
      fun _ ms => reg.findEach type flags names = .ok ms := by
  induction names generalizing plan with
  | nil => exact .pure rfl
  | cons name names ih =>
    refine (Binder.member_safe (q := { kinds := .fieldsAndProperties, name, flags }) trivial config
      native type).bind fun _ m _ hm => ?_
    exact ih.bind fun _ ms _ hms => .pure (mapM_cons_of_ok hm hms)

lemma setAll_safe {subject : Subject} (hs : ∀ v ∈ subject.values, v.Sound reg plan)
    {values : List (String × Value)} (hvalues : ∀ v ∈ values.map (·.2), v.Sound reg plan)
    (flags : Option Flags) :
    ((Binder.of reg config native).setAll subject values flags).Safe reg next plan
      fun _ _ => True := by
  have hr := Subject.receiver_sound hs
  refine (Safe.ofExcept _).bind fun plan₁ type hplan₁ _ => ?_
  refine Safe.bind (P := fun _ b => ∀ s ∈ b.value.setters, s.Plain reg) ?_
    fun plan₂ b hplan₂ hb => ?_
  · refine (membersNamed_safe type _ _).bind fun _ ms _ hms => ?_
    have hfetches : Fetches reg config _ _ _ := .batchSetter hms
    exact Run.fetch_safe hv hall hfetches
  · have hplan := hplan₁.trans hplan₂
    exact b.value.run_safe hv hb (hr.mono hplan) fun v hmem => (hvalues v hmem).mono hplan

/-! ### Methods and constructors -/

lemma method_safe {type : TypeId} {name : String} {signature : Signature} {flags : Flags}
    (h : Asks config .method type { kinds := .single .method, name, flags, signature }) :
    ((Binder.of reg config native).method type name signature flags).Safe reg next plan
      fun _ m => m.value.Plain reg :=
  (found_safe h).bind fun _ _ _ hm => Run.fetch_safe hv hall (.invoker .method hm)

lemma call_safe {subject : Subject} (hs : ∀ v ∈ subject.values, v.Sound reg plan)
    {arguments : List Value} (ha : ∀ v ∈ arguments, v.Sound reg plan) (name : String)
    (params : Option (List Param)) :
    ((Binder.of reg config native).call subject name params arguments).Safe reg next plan
      fun plan' r => SoundCall reg plan' r := by
  have hr := Subject.receiver_sound hs
  refine (Safe.ofExcept _).bind fun plan₁ type hplan₁ htype => ?_
  refine (method_safe hv hall (.ofCall htype name params arguments)).bind
    fun plan₂ m hplan₂ hm => ?_
  have hplan := hplan₁.trans hplan₂
  exact m.value.run_safe hv hm (hr.mono hplan) fun v hmem => (ha v hmem).mono hplan

lemma constructor_safe {type : TypeId} {signature : Signature}
    (h : Asks config .constructor type
      { kinds := .single .constructor, name := constructorName, flags := .instanceAny,
        signature }) :
    ((Binder.of reg config native).constructor type signature).Safe reg next plan
      fun _ c => c.value.Plain reg :=
  (found_safe h).bind fun _ _ _ hm => Run.fetch_safe hv hall (.invoker .constructor hm)

include hn in
lemma create_safe {arguments : List Value} (ha : ∀ v ∈ arguments, v.Sound reg plan)
    (type : TypeId) (params : Option (List Param)) :
    ((Binder.of reg config native).create type params arguments).Safe reg next plan
      fun plan' r => SoundCall reg plan' r := by
  refine (constructor_safe hv hall (.ofCreate type params arguments)).bind
    fun plan₁ c hplan₁ hc => ?_
  exact c.value.run_safe hall hn hc fun v hmem => (ha v hmem).mono hplan₁

/-! ### Copies between instances -/

lemma copy_safe {source target : Value} (hsource : source.Sound reg plan)
    (htarget : target.Sound reg plan) (o : CopyOptions) :
    ((Binder.of reg config native).copy source target o).Safe reg next plan fun _ _ => True := by
  refine (Safe.ofExcept _).bind fun plan₁ sourceType hplan₁ _ => ?_
  refine (Safe.ofExcept _).bind fun plan₂ targetType hplan₂ _ => ?_
  refine Safe.bind (P := fun _ c => ∀ step ∈ c.value.steps, step.1.Plain ∧ step.2.Plain reg) ?_
    fun plan₃ c hplan₃ hc => ?_
  · refine (Safe.ofExcept _).bind fun _ pairs _ hpairs => ?_
    have hfetches : Fetches reg config _ _ _ := .copier hpairs
    exact Run.fetch_safe hv hall hfetches
  · have hplan := (hplan₁.trans hplan₂).trans hplan₃
    exact c.value.run_safe hv hc (hsource.mono hplan) (htarget.mono hplan)

end Binder

/-! ### Requests -/

include hv hall hn in
/-- A request by name that hands over sound values is safe, and its answer is sound. -/
lemma Request.perform_safe {r : Request} (hr : r.ByName)
    (hvalues : ∀ v ∈ r.values, v.Sound reg plan) :
    (r.perform (.of reg config native)).Safe reg next plan
      fun plan' a => ∀ v ∈ a.values, v.Sound reg plan' := by
  have hsound : ∀ {plan : Plan} {v w : Value}, v.Sound reg plan → w ∈ [v] → w.Sound reg plan :=
    fun hv hw => List.mem_singleton.mp hw ▸ hv
  cases r with
  | resolve type kinds name flags params =>
    exact (Binder.member_safe (Signature.ofParams_ofRequest params) config native type).bind
      fun _ _ _ _ => .pure nofun
  | resolveAll type kinds name flags params =>
    exact (Safe.ofExcept _).bind fun _ _ _ _ => .pure nofun
  | get subject kinds name flags =>
    exact (Binder.get_safe hv hall hvalues kinds name flags).bind fun _ _ _ hv =>
      .pure fun _ => hsound hv
  | set subject kinds name new flags =>
    obtain ⟨hnew, hsubject⟩ := List.forall_mem_cons.mp hvalues
    exact (Binder.set_safe hv hall hsubject hnew kinds name flags).bind fun _ _ _ _ => .pure nofun
  | setAll subject values flags =>
    obtain ⟨hsubject, hnew⟩ := List.forall_mem_append.mp hvalues
    exact (Binder.setAll_safe hv hall hsubject hnew flags).bind fun _ _ _ _ => .pure nofun
  | call subject name params arguments =>
    obtain ⟨hsubject, ha⟩ := List.forall_mem_append.mp hvalues
    exact (Binder.call_safe hv hall hsubject ha name params).bind fun _ _ _ hcall =>
      .pure (List.forall_mem_cons.mpr hcall)
  | create type params arguments =>
    exact (Binder.create_safe hv hall hn hvalues type params).bind fun _ _ _ hcall =>
      .pure (List.forall_mem_cons.mpr hcall)
  | copy source target o =>
    obtain ⟨hsource, htarget⟩ := List.forall_mem_cons.mp hvalues
    have htarget := htarget target List.mem_cons_self
    exact (Binder.copy_safe hv hall hsource htarget o).bind fun _ _ _ _ => .pure nofun
  | getter type kinds name flags =>
    exact (Binder.getter_safe hv hall type kinds name flags).bind fun _ _ _ _ => .pure nofun
  | setter type kinds name flags =>
    exact (Binder.setter_safe hv hall type kinds name flags).bind fun _ _ _ _ => .pure nofun
  | method type name params flags =>
    exact (Binder.method_safe hv hall (.method type name params flags)).bind
      fun _ _ _ _ => .pure nofun
  | constructor type params =>
    exact (Binder.constructor_safe hv hall (.constructor type params)).bind
      fun _ _ _ _ => .pure nofun
  | _ => exact hr.elim

end LateBinding

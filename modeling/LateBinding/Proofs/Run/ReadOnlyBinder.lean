import LateBinding.Proofs.Run.PlainBinder
import LateBinding.Proofs.Run.ReadOnly

/-!
# The binder keeps read-only slots

Every operation of the binder finds the member, gets an invoker that is careful, and runs it. If it
is given known values, and careful invokers where it is given some, nothing is written that may not
be written, and what it gives is known and careful again.

Main statement: `Request.perform_careful`.
-/

namespace LateBinding

open Registry Run

/-! ### What requests and answers carry -/

namespace Request

/-- The values that a request hands over, but for indices. -/
def operands : Request → List Value
  | getAt receiver _ => [receiver]
  | setAt receiver _ new => [receiver, new]
  | useGetter _ receiver => [receiver]
  | useSetter _ receiver new => [receiver, new]
  | useMethod _ receiver arguments => receiver :: arguments
  | useConstructor _ arguments => arguments
  | r => r.values

/-- If the request brings an invoker that somebody has kept, something holds of it. -/
def Brings (P : (c : Category) → c.Item → Prop) : Request → Prop
  | useGetter g _ => P .getters g
  | useSetter s _ _ => P .setters s
  | useMethod m _ _ => P .methods m
  | useConstructor c _ => P .constructors c
  | _ => True

lemma Brings.mono {P Q : (c : Category) → c.Item → Prop} {r : Request} (h : r.Brings P)
    (hPQ : ∀ {c x}, P c x → Q c x) : r.Brings Q := by
  cases r with
  | useGetter | useSetter | useMethod | useConstructor => exact hPQ h
  | _ => trivial

end Request

namespace Answer

/-- The answer hands out the invoker. -/
inductive Hands : Answer → (c : Category) → c.Item → Prop where
  | getter (g : Stamped Getter) : Hands (.getter g) .getters g.value
  | setter (s : Stamped Setter) : Hands (.setter s) .setters s.value
  | method (m : Stamped Method) : Hands (.method m) .methods m.value
  | constructor (c : Stamped Construction) : Hands (.constructor c) .constructors c.value

/-- The values of the answer are known, and an invoker that it hands out is careful. -/
structure Careful (reg : Registry) (plan : Plan) (a : Answer) : Prop where
  values : ∀ v ∈ a.values, v.Known reg plan
  invoker : ∀ {c : Category} {x : c.Item}, a.Hands c x → Category.Careful reg c x

end Answer

variable {reg : Registry} {plan₀ plan : Plan} {st₀ st₁ : Store} {native : Native}
  {config : Config}

lemma Answer.Careful.value {v : Value} (h : v.Known reg plan) : (value v).Careful reg plan :=
  ⟨List.forall_mem_singleton.mpr h, nofun⟩

lemma Answer.Careful.call {r : Value × List Value} (h : KnownCall reg plan r) :
    (call r.1 r.2).Careful reg plan :=
  ⟨List.forall_mem_cons.mpr h, nofun⟩

/-! ### Operations -/

lemma Subject.receiver_known {subject : Subject} (h : ∀ v ∈ subject.values, v.Known reg plan) :
    subject.receiver.Known reg plan := by
  cases subject with
  | «instance» v => exact h v List.mem_cons_self
  | type t => exact Value.IsBasic.known ⟨rfl, rfl⟩

namespace Binder

variable (hP : Category.Built reg (Category.Careful reg)) (hv : Settled reg st₁)
include hP

lemma get_careful {subject : Subject} (hs : ∀ v ∈ subject.values, v.Known reg plan)
    (kinds : KindSet) (name : String) (flags : Option Flags) :
    ((Binder.of reg config native).get subject kinds name flags).Careful reg plan₀ st₀ plan
      fun plan' v => v.Known reg plan' := by
  refine (Careful.ofExcept _).bind fun plan₁ type hplan₁ _ => ?_
  refine (Careful.of_looks (getter_looks hP type kinds name _)).bind fun plan₂ g hplan₂ hg => ?_
  exact g.value.run_careful hg.1 ((Subject.receiver_known hs).mono (hplan₁.trans hplan₂))

lemma getAt_careful (receiver : Value) (indices : List Value) :
    ((Binder.of reg config native).getAt receiver indices).Careful reg plan₀ st₀ plan
      fun plan' v => v.Known reg plan' :=
  (Careful.of_looks (indexReader_looks hP receiver indices)).bind fun _ x _ hx =>
    x.value.run_careful hx.1 indices

lemma setAt_careful {receiver new : Value} (hr : receiver.Known reg plan)
    (hnew : new.Known reg plan) (indices : List Value) :
    ((Binder.of reg config native).setAt receiver indices new).Careful reg plan₀ st₀ plan
      fun _ _ => True :=
  (Careful.of_looks (indexWriter_looks hP receiver indices)).bind fun _ x hplan hx =>
    x.value.run_careful hx.1 (hr.mono hplan) (hnew.mono hplan) indices

include hv

lemma set_careful {subject : Subject} (hs : ∀ v ∈ subject.values, v.Known reg plan) {new : Value}
    (hnew : new.Known reg plan) (kinds : KindSet) (name : String) (flags : Option Flags) :
    ((Binder.of reg config native).set subject kinds name new flags).Careful reg plan₀ st₀ plan
      fun _ _ => True := by
  refine (Careful.ofExcept _).bind fun plan₁ type hplan₁ _ => ?_
  refine (Careful.of_looks (setter_looks hP type kinds name _)).bind fun plan₂ s hplan₂ hset => ?_
  have hplan := hplan₁.trans hplan₂
  exact s.value.run_careful hv hset.1 hset.2 ((Subject.receiver_known hs).mono hplan)
    (hnew.mono hplan)

lemma setAll_careful {subject : Subject} (hs : ∀ v ∈ subject.values, v.Known reg plan)
    {values : List (String × Value)} (hvalues : ∀ v ∈ values.map (·.2), v.Known reg plan)
    (flags : Option Flags) :
    ((Binder.of reg config native).setAll subject values flags).Careful reg plan₀ st₀ plan
      fun _ _ => True := by
  refine (Careful.ofExcept _).bind fun plan₁ type hplan₁ _ => ?_
  refine (Careful.of_looks (batchSetter_looks hP type _ _)).bind fun plan₂ b hplan₂ hb => ?_
  have hplan := hplan₁.trans hplan₂
  exact b.value.run_careful hv (fun s hs => ⟨hb.1 s hs, hb.2 s hs⟩)
    ((Subject.receiver_known hs).mono hplan) fun v hmem => (hvalues v hmem).mono hplan

lemma call_careful {subject : Subject} (hs : ∀ v ∈ subject.values, v.Known reg plan)
    {arguments : List Value} (ha : ∀ v ∈ arguments, v.Known reg plan) (name : String)
    (params : Option (List Param)) :
    ((Binder.of reg config native).call subject name params arguments).Careful reg plan₀ st₀ plan
      fun plan' r => KnownCall reg plan' r := by
  refine (Careful.ofExcept _).bind fun plan₁ type hplan₁ htype => ?_
  refine (Careful.of_looks (method_looks hP (.ofCall htype name params arguments))).bind
    fun plan₂ m hplan₂ hm => ?_
  have hplan := hplan₁.trans hplan₂
  exact m.value.run_careful hv hm.1 hm.2 ((Subject.receiver_known hs).mono hplan)
    fun v hmem => (ha v hmem).mono hplan

lemma create_careful (hn : native.Idle) {arguments : List Value}
    (ha : ∀ v ∈ arguments, v.Known reg plan) (type : TypeId) (params : Option (List Param)) :
    ((Binder.of reg config native).create type params arguments).Careful reg plan₀ st₀ plan
      fun plan' r => KnownCall reg plan' r := by
  refine (Careful.of_looks (constructor_looks hP (.ofCreate type params arguments))).bind
    fun plan₁ c hplan₁ hc => ?_
  exact c.value.run_careful hv hn hc.1 hc.2 fun v hmem => (ha v hmem).mono hplan₁

lemma copy_careful {source target : Value} (hsource : source.Known reg plan)
    (htarget : target.Known reg plan) (o : CopyOptions) :
    ((Binder.of reg config native).copy source target o).Careful reg plan₀ st₀ plan
      fun _ _ => True := by
  refine (Careful.ofExcept _).bind fun plan₁ sourceType hplan₁ _ => ?_
  refine (Careful.ofExcept _).bind fun plan₂ targetType hplan₂ _ => ?_
  refine (Careful.of_looks (copier_looks hP sourceType targetType o)).bind
    fun plan₃ c hplan₃ hc => ?_
  have hplan := (hplan₁.trans hplan₂).trans hplan₃
  exact Copier.run_careful hv (fun step hs => ⟨hc.1 step hs, hc.2 step hs⟩) (hsource.mono hplan)
    (htarget.mono hplan)

end Binder

/-! ### Requests -/

/-- A request that hands over known values and brings a careful invoker, if any, leaves alone what
may not be written, and its answer is careful. -/
lemma Request.perform_careful (hP : Category.Built reg (Category.Careful reg))
    (hv : Settled reg st₁) (hn : native.Idle) {r : Request}
    (hbrings : r.Brings (Category.Careful reg)) (hr : ∀ v ∈ r.operands, v.Known reg plan) :
    (r.perform (.of reg config native)).Careful reg plan₀ st₀ plan fun plan' a =>
      a.Careful reg plan' := by
  cases r with
  | resolve type kinds name flags params =>
    have hparams := Signature.ofParams_ofRequest params
    exact (Careful.of_looks (Binder.member_looks hparams type)).bind
      fun _ _ _ _ => .pure ⟨List.forall_mem_nil _, nofun⟩
  | resolveAll type kinds name flags params =>
    exact (Careful.ofExcept _).bind fun _ _ _ _ => .pure ⟨List.forall_mem_nil _, nofun⟩
  | get subject kinds name flags =>
    exact (Binder.get_careful hP hr kinds name flags).bind fun _ _ _ hv' => .pure (.value hv')
  | set subject kinds name new flags =>
    obtain ⟨hnew, hsubject⟩ := List.forall_mem_cons.mp hr
    exact (Binder.set_careful hP hv hsubject hnew kinds name flags).bind
      fun _ _ _ _ => .pure ⟨List.forall_mem_nil _, nofun⟩
  | setAll subject values flags =>
    obtain ⟨hsubject, hvalues⟩ := List.forall_mem_append.mp hr
    exact (Binder.setAll_careful hP hv hsubject hvalues flags).bind
      fun _ _ _ _ => .pure ⟨List.forall_mem_nil _, nofun⟩
  | call subject name params arguments =>
    obtain ⟨hsubject, ha⟩ := List.forall_mem_append.mp hr
    exact (Binder.call_careful hP hv hsubject ha name params).bind
      fun _ _ _ hc => .pure (.call hc)
  | create type params arguments =>
    exact (Binder.create_careful hP hv hn hr type params).bind fun _ _ _ hc => .pure (.call hc)
  | getAt receiver indices =>
    exact (Binder.getAt_careful hP receiver indices).bind fun _ _ _ hv' => .pure (.value hv')
  | setAt receiver indices new =>
    have hnew := hr new (List.mem_cons_of_mem _ List.mem_cons_self)
    exact (Binder.setAt_careful hP (hr receiver List.mem_cons_self) hnew indices).bind
      fun _ _ _ _ => .pure ⟨List.forall_mem_nil _, nofun⟩
  | copy source target o =>
    have htarget := hr target (List.mem_cons_of_mem _ List.mem_cons_self)
    exact (Binder.copy_careful hP hv (hr source List.mem_cons_self) htarget o).bind
      fun _ _ _ _ => .pure ⟨List.forall_mem_nil _, nofun⟩
  | getter type kinds name flags =>
    exact (Careful.of_looks (Binder.getter_looks hP type kinds name flags)).bind
      fun _ _ _ hg => .pure ⟨List.forall_mem_nil _, fun | .getter _ => hg⟩
  | setter type kinds name flags =>
    exact (Careful.of_looks (Binder.setter_looks hP type kinds name flags)).bind
      fun _ _ _ hs => .pure ⟨List.forall_mem_nil _, fun | .setter _ => hs⟩
  | method type name params flags =>
    exact (Careful.of_looks (Binder.method_looks hP (.method type name params flags))).bind
      fun _ _ _ hm => .pure ⟨List.forall_mem_nil _, fun | .method _ => hm⟩
  | constructor type params =>
    exact (Careful.of_looks (Binder.constructor_looks hP (.constructor type params))).bind
      fun _ _ _ hc => .pure ⟨List.forall_mem_nil _, fun | .constructor _ => hc⟩
  | useGetter g receiver =>
    exact (g.run_careful hbrings.1 (hr receiver List.mem_cons_self)).bind
      fun _ _ _ hv' => .pure (.value hv')
  | useSetter s receiver new =>
    have hnew := hr new (List.mem_cons_of_mem _ List.mem_cons_self)
    exact (s.run_careful hv hbrings.1 hbrings.2 (hr receiver List.mem_cons_self) hnew).bind
      fun _ _ _ _ => .pure ⟨List.forall_mem_nil _, nofun⟩
  | useMethod m receiver arguments =>
    obtain ⟨hreceiver, ha⟩ := List.forall_mem_cons.mp hr
    exact (m.run_careful hv hbrings.1 hbrings.2 hreceiver ha).bind
      fun _ _ _ hc => .pure (.call hc)
  | useConstructor c arguments =>
    exact (c.run_careful hv hn hbrings.1 hbrings.2 hr).bind fun _ _ _ hc => .pure (.call hc)

end LateBinding

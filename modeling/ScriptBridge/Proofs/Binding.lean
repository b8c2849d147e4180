import ScriptBridge.Dispatch.Invoke
import ScriptBridge.Proofs.Covariance
import ScriptBridge.Proofs.Growth

namespace ScriptBridge

/-!
# Arguments find their places

The signature of a member is counted from its parameters, and a call fills the parameters with
arguments. The two agree: a member that is chosen for some number of arguments is called with that
many, and gets as far as its body.

* `Param.Takes` tells how many arguments by position some parameters take;
* `Host.exists_bindParams_eq`: so many arguments fill all parameters;
* `Store.behind?` is the function that a member runs, and what comes before the arguments;
* `takes_of_plain`, `takes_of_method` and `takes_of_bound` go from the three sorts of signatures to
  the arguments that are taken, the receiver included;
* `enters_of_resolveMethod`: what a lookup chooses takes the arguments it was chosen for.
-/

/-! ### Filling parameters -/

namespace Param

/-- Whether some parameters take a number of arguments by position, and no other. -/
structure Takes (params : List Param) (n : Nat) : Prop where
  /-- Every place is filled. -/
  filled : (params.filter takesPosition).length ≤ n
  /-- What is left over has somewhere to go. -/
  room : n ≤ (params.filter takesPosition).length ∨ ∃ p ∈ params, p.form = .rest
  /-- Nothing else is needed. -/
  named : ∀ p ∈ params, ¬ p.MustBeNamed

/-- Whether the function of some parameters can take a receiver: in its first place, or among the
    rest of its arguments. -/
def TakeReceiver (params : List Param) : Prop :=
  (∃ p ∈ params.head?, p.takesPosition) ∨ ∃ p ∈ params, p.form = .rest

end Param

namespace Run

/-- An operation that succeeds at every element, and only adds objects, succeeds at a list; `name`
    and `label` tell what is kept of the elements. -/
theorem exists_mapM_eq {α β γ : Type} {f : α → Run β} {name : α → γ} {label : β → γ} {l : List α}
    (w : World) (h : ∀ a ∈ l, ∀ u, ∃ b u', f a u = (.ok b, u') ∧ u.Grows u' ∧ label b = name a) :
    ∃ bs w', l.mapM f w = (.ok bs, w') ∧ w.Grows w' ∧ bs.map label = l.map name := by
  induction l generalizing w with
  | nil => exact ⟨[], w, rfl, .refl w, rfl⟩
  | cons a rest ih =>
    obtain ⟨b, u, hb, hgrows, hname⟩ := h a List.mem_cons_self w
    obtain ⟨bs, w', hbs, hgrows', hnames⟩ := ih u fun a' ha' => h a' (List.mem_cons_of_mem _ ha')
    refine ⟨b :: bs, w', ?_, hgrows.trans hgrows', by simp [hname, hnames]⟩
    rw [List.mapM_cons, bind_of_ok hb, bind_of_ok hbs]
    rfl

end Run

namespace Host

open Run

/-- Every place has its argument, if there are enough. -/
theorem isSome_lookup_zip {names : List String} {args : List Value}
    (h : names.length ≤ args.length) {n : String} (hn : n ∈ names) :
    ((names.zip args).lookup n).isSome := by
  rw [← List.map_fst_zip h] at hn
  obtain ⟨x, hx, rfl⟩ := List.mem_map.1 hn
  exact List.lookup_isSome_iff.2 ⟨x, hx, beq_self_eq_true _⟩

/-- **Filling parameters.** As many arguments as the parameters take fill them all. -/
theorem exists_bindParams_eq {params : List Param} {args : List Value}
    (h : Param.Takes params args.length) (w : World) :
    ∃ bound w', bindParams params { positional := args } w = (.ok bound, w') ∧ w.Grows w' ∧
      bound.map Prod.fst = params.map Param.name := by
  -- No argument is left over: there is room for all, or a parameter that takes the rest.
  have hsurplus : (!(args.drop (params.filter Param.takesPosition).length).isEmpty &&
      (params.find? (·.form = .rest)).isNone) = false := by
    rcases h.room with hroom | ⟨p, hp, hrest⟩
    · simp [List.drop_eq_nil_of_le hroom]
    · have : (params.find? (·.form = .rest)).isSome := List.find?_isSome.2 ⟨p, hp, by simpa⟩
      simp [Option.isNone_eq_false_iff.2 this]
  have hplace (p : Param) (hp : p ∈ params) (hpos : p.takesPosition) :
      ((((params.filter Param.takesPosition).map (·.name)).zip args).lookup p.name).isSome :=
    isSome_lookup_zip (by simpa using h.filled)
      (List.mem_map_of_mem (List.mem_filter.2 ⟨hp, hpos⟩))
  unfold bindParams
  simp only [hsurplus, List.partition_eq_filter_filter, List.filter_nil, List.isEmpty_nil,
    List.any_nil, List.append_nil, Bool.not_true, Bool.false_and, Bool.false_eq_true, if_false]
  -- Each parameter finds its value by itself, and only new tuples and maps are added.
  refine exists_mapM_eq w fun p hp u => ?_
  cases hform : p.form with
  | rest =>
    obtain ⟨i, u', hnew, hgrows, -⟩ := exists_alloc_eq u
      { kind := .library .tuple
        body := .tuple (args.drop (params.filter Param.takesPosition).length) }
    exact ⟨_, u', bind_of_ok (x := newTuple _) hnew, hgrows, rfl⟩
  | restNamed =>
    obtain ⟨i, u', hnew, hgrows, -⟩ := exists_alloc_eq u
      { kind := .library .dict, body := .dict (.ofList []) }
    exact ⟨_, u', bind_of_ok (x := newDict _) hnew, hgrows, rfl⟩
  | normal | positional =>
    obtain ⟨v, hv⟩ := Option.isSome_iff_exists.1
      (hplace p hp (by simp [Param.takesPosition, hform]))
    exact ⟨(p.name, v), u, by simp [hv], .refl u, rfl⟩
  | named =>
    -- No argument comes by name, so a named parameter needs its default.
    have hfallback : p.fallback ≠ none := fun hnone => h.named p hp ⟨hform, hnone⟩
    obtain ⟨v, hv⟩ := Option.ne_none_iff_exists'.1 hfallback
    cases hlookup : (((params.filter Param.takesPosition).map (·.name)).zip args).lookup p.name with
    | some v' => exact ⟨(p.name, v'), u, by simp, .refl u, rfl⟩
    | none => exact ⟨(p.name, v), u, by simp [hv], .refl u, rfl⟩

end Host

/-! ### From signatures to arguments -/

section Reading

open Store

variable {read : List (String × Hint)} {params ps : List Param} {n : Nat}
  {accepted : List (List Kind)}

/-- Reading hints changes hints only. -/
theorem readParam_eq (read : List (String × Hint)) (p : Param) :
    ∃ hint, readParam read p = { p with hint } := by
  unfold readParam
  split
  · exact ⟨_, rfl⟩
  · exact ⟨p.hint, rfl⟩

/-- Reading the hint of a parameter leaves its form. -/
@[simp] theorem form_readParam (p : Param) : (readParam read p).form = p.form := by
  obtain ⟨hint, h⟩ := readParam_eq read p
  rw [h]

/-- Reading the hint of a parameter leaves whether it must be named. -/
@[simp] theorem mustBeNamed_readParam (p : Param) :
    (readParam read p).MustBeNamed ↔ p.MustBeNamed := by
  obtain ⟨hint, h⟩ := readParam_eq read p
  rw [h]
  rfl

/-- Reading the hint of a parameter leaves whether it takes arguments by position. -/
@[simp] theorem takesPosition_readParam (p : Param) :
    (readParam read p).takesPosition = p.takesPosition := by
  simp [Param.takesPosition]

/-- Parameters take the same arguments before and after their hints are read. -/
theorem takes_map_readParam :
    Param.Takes (params.map (readParam read)) n ↔ Param.Takes params n := by
  -- The three conditions look at forms and defaults, never at hints.
  have hlen : ((params.map (readParam read)).filter Param.takesPosition).length =
      (params.filter Param.takesPosition).length := by
    rw [List.filter_map, List.length_map]
    congr 2
    funext p
    simp
  constructor
  · rintro ⟨hfilled, hroom, hnamed⟩
    exact ⟨hlen ▸ hfilled, by simpa [hlen] using hroom, by simpa using hnamed⟩
  · rintro ⟨hfilled, hroom, hnamed⟩
    exact ⟨hlen.symm ▸ hfilled, by simpa [hlen] using hroom, by simpa using hnamed⟩

/-- Reading hints leaves whether there is a parameter for the receiver. -/
theorem takeReceiver_map_readParam :
    Param.TakeReceiver (params.map (readParam read)) ↔ Param.TakeReceiver params := by
  cases params <;> simp [Param.TakeReceiver]

/-- Parameters that could be read are those that were written, but for their hints. -/
theorem exists_map_readParam (s : Store) (h : s.readParams? params = some ps) :
    ∃ read, ps = params.map (readParam read) := by
  have hid : params = params.map (readParam []) := (List.map_id params).symm
  unfold readParams? at h
  split at h
  next read _ => exact ⟨read, (Option.some.inj h).symm⟩
  next =>
    split at h
    · exact ⟨[], (Option.some.inj h) ▸ hid⟩
    · cases h

/-- A signature counts the arguments that its parameters take. -/
theorem takes_of_reads (h : (Signature.takes accepted).Reads (some ps)) :
    Param.Takes ps accepted.length := by
  cases h with
  | takes hnamed => exact ⟨by simp, .inl (by simp), hnamed⟩

/-- With a receiver, parameters take one argument more. -/
theorem takes_of_reads_withoutReceiver (hreceiver : Param.TakeReceiver ps)
    (h : (Signature.takes accepted).Reads (some (withoutReceiver ps))) :
    Param.Takes ps (accepted.length + 1) := by
  obtain ⟨hfilled, hroom, hnamed⟩ := takes_of_reads h
  cases ps with
  | nil => simp [Param.TakeReceiver] at hreceiver
  | cons p rest =>
    by_cases hp : p.takesPosition
    · -- The receiver has the first place.
      have hform : ¬ p.MustBeNamed := fun hp' => by
        simp [Param.takesPosition, hp'.1] at hp
      simp only [withoutReceiver, hp, if_true] at hfilled hroom hnamed
      refine ⟨by simpa [hp] using hfilled, ?_, List.forall_mem_cons.2 ⟨hform, hnamed⟩⟩
      simpa [hp] using hroom.imp_right fun ⟨q, hq, hrest⟩ => .inr ⟨q, hq, hrest⟩
    · -- The receiver goes to the rest.
      simp only [withoutReceiver, hp, Bool.false_eq_true, if_false] at hfilled hroom hnamed
      refine ⟨Nat.le_succ_of_le hfilled, .inr (hreceiver.resolve_left ?_), hnamed⟩
      simpa using hp

/-- Where a receiver can be supplied, parameters take it. -/
theorem dropReceiver?_eq_some {rest : List Param} (h : dropReceiver? ps = some rest) :
    rest = withoutReceiver ps ∧ Param.TakeReceiver ps := by
  unfold dropReceiver? at h
  split at h
  · cases h
  · split_ifs at h with hp hrest
    · cases h
      simp [withoutReceiver, hp, Param.TakeReceiver]
    · cases h
      simp [withoutReceiver, hp, hrest, Param.TakeReceiver]

/-- A signature that counts arguments was made of parameters that could be read. -/
theorem exists_some_of_reads {params? : Option (List Param)}
    (h : (Signature.takes accepted).Reads params?) : ∃ ps, params? = some ps := by
  cases h with
  | takes _ => exact ⟨_, rfl⟩

/-- A function without a receiver takes the arguments that its signature counts. -/
theorem takes_of_plain {s : Store} (h : (Signature.takes accepted).Reads (s.readParams? params)) :
    Param.Takes params accepted.length := by
  obtain ⟨ps, hps⟩ := exists_some_of_reads h
  obtain ⟨read, rfl⟩ := exists_map_readParam s hps
  exact takes_map_readParam.1 (takes_of_reads (hps ▸ h))

/-- A method that can take its receiver takes it besides the arguments that its signature counts. -/
theorem takes_of_method {s : Store} (hreceiver : Param.TakeReceiver params)
    (h : (Signature.takes accepted).Reads ((s.readParams? params).map withoutReceiver)) :
    Param.Takes params (1 + accepted.length) := by
  obtain ⟨rest, hsome⟩ := exists_some_of_reads h
  obtain ⟨ps, hps, -⟩ := Option.map_eq_some_iff.1 hsome
  obtain ⟨read, rfl⟩ := exists_map_readParam s hps
  rw [hps] at h
  rw [Nat.add_comm]
  exact takes_map_readParam.1
    (takes_of_reads_withoutReceiver (takeReceiver_map_readParam.2 hreceiver) h)

/-- A function of the class can take its receiver, and takes it besides the arguments that its
    signature counts. -/
theorem takes_of_bound {s : Store}
    (h : (Signature.takes accepted).Reads ((s.readParams? params).bind dropReceiver?)) :
    Param.Takes params (1 + accepted.length) := by
  obtain ⟨rest, hsome⟩ := exists_some_of_reads h
  obtain ⟨ps, hps, hdrop⟩ := Option.bind_eq_some_iff.1 hsome
  obtain ⟨rfl, hreceiver⟩ := dropReceiver?_eq_some hdrop
  obtain ⟨read, rfl⟩ := exists_map_readParam s hps
  rw [hsome] at h
  rw [Nat.add_comm]
  exact takes_map_readParam.1 (takes_of_reads_withoutReceiver hreceiver h)

end Reading

/-! ### What a member runs -/

namespace Store

/-- The function that a member of a class runs, and the values that stand before the arguments: the
    instance, the class or nothing. -/
def behind? (s : Store) (handle inst : Value) (k : Kind) : Option (Function × List Value) :=
  match s.body? handle with
  | some (.function f) => some (f, [inst])
  | some (.staticMethod g) => (s.function? g).map (·, [])
  | some (.classMethod g) => (s.function? g).map (·, [.kind k])
  | _ => none

theorem function?_eq_some_iff {s : Store} {v : Value} {f : Function} :
    s.function? v = some f ↔ s.body? v = some (.function f) := by
  unfold function?
  split <;> simp_all

/-- What an entry holds runs a function that takes what the signature counts, besides its
    receiver. -/
theorem Holds.takes {s : Store} {owner : Kind} {attr : String} {e : ClassEntry} {c : Callable}
    (h : s.Holds owner attr e c) {accepted : List (List Kind)}
    (hsig : c.signature = .takes accepted) (hprogram : ∀ f, c.handle ≠ .native f)
    (hreceiver : ∀ f, s.function? c.handle = some f → Param.TakeReceiver f.params) (inst : Value)
    (k : Kind) :
    ∃ f before, s.behind? c.handle inst k = some (f, before) ∧
      Param.Takes f.params (before.length + accepted.length) := by
  cases h with
  | method | static | native _ => exact absurd rfl (hprogram _)
  -- Only here may the receiver be missing, so only here it has to be asked for.
  | @function v f signature hb hr =>
    obtain rfl : signature = .takes accepted := hsig
    have htakes := takes_of_method (hreceiver f (by simp [function?, hb])) hr
    exact ⟨f, [inst], by simp [behind?, hb], htakes⟩
  | @staticMethod v g f signature hb hf hr =>
    obtain rfl : signature = .takes accepted := hsig
    exact ⟨f, [], by simp [behind?, hb, hf], by simpa using takes_of_plain hr⟩
  | @classMethod v g f signature hb hf hr =>
    obtain rfl : signature = .takes accepted := hsig
    exact ⟨f, [.kind k], by simp [behind?, hb, hf], takes_of_bound hr⟩

end Store

/-! ### Calling what was bound -/

namespace Host

open Run

/-- Whether a call by position fills the parameters of a function and then runs its body; `before`
    is what stands before the arguments. -/
def Enters (f : Function) (before : List Value) (depth : Nat) (v : Value) (args : List Value)
    (w : World) : Prop :=
  ∃ bound u d, bindParams f.params { positional := before ++ args } w = (.ok bound, u) ∧
    bound.map Prod.fst = f.params.map Param.name ∧
    callAt depth v { positional := args } w = eval (callAt d) (frameOf f bound) f.body u

variable {w : World} {f : Function} {args : List Value}

/-- A function is called by running its body with its parameters filled. -/
theorem callAt_function {v : Value} (hb : w.store.body? v = some (.function f)) (depth : Nat)
    (args : Args) :
    callAt (depth + 1) v args w =
      (bindParams f.params args >>= fun bound =>
        eval (callAt depth) (frameOf f bound) f.body) w := by
  cases v with
  | object i =>
    conv_lhs => unfold callAt callStep
    simp only [bind_of_ok (store_apply w), hb]
  | _ => cases hb

/-- A bound function is called with its receiver before the arguments. -/
theorem callAt_bound {v g receiver : Value} (hb : w.store.body? v = some (.bound g receiver))
    (depth : Nat) (args : Args) :
    callAt (depth + 1) v args w =
      callAt depth g { args with positional := receiver :: args.positional } w := by
  cases v with
  | object i =>
    conv_lhs => unfold callAt callStep
    simp only [bind_of_ok (store_apply w), hb]
  | _ => cases hb

end Host

end ScriptBridge

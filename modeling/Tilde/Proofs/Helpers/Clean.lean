import Tilde.Eval
import Tilde.Proofs.Effects
import Tilde.Proofs.Lexer.Contents

/-!
# The helpers of shell literals

Shell literals reach their helpers through names that start with a dollar sign. A namespace has the
helpers where each of these names is bound to its own function. Setting a variable whose name is a
word keeps them, since no word holds a dollar sign.

A value is clean if it holds no helper, at any depth. Nothing that a program can do to clean values
makes an unclean one: operators, subscripts, attributes, methods and the built-in functions give back
parts of what they are given, or values that hold no function at all.
-/

namespace Tilde

/-! ## Namespaces with helpers -/

/-- Whether the function is a helper of shell literals. -/
def Builtin.isHelper : Builtin → Bool
  | .run _ | .quote => true
  | _ => false

/-- Whether the name is that of a helper. -/
def IsHelperName (name : String) : Prop := ∃ f : Builtin, f.isHelper = true ∧ f.name = name

theorem Builtin.name_dollar {f : Builtin} (h : f.isHelper = true) : '$' ∈ f.name.toList := by
  cases f with
  | run d => cases d <;> decide
  | quote => decide
  | _ => cases h

/-- No word is the name of a helper. -/
theorem IsWord.not_helper {name : String} (h : IsWord name) : ¬IsHelperName name := by
  rintro ⟨f, hf, rfl⟩
  exact h.no_dollar (Builtin.name_dollar hf)

namespace Namespace

variable {ns : Namespace} {n m : String} {v : Value}

theorem lookup_setIn (bs : List (String × Value)) :
    (setIn n v bs).lookup m = if m = n then some v else bs.lookup m := by
  induction bs with
  | nil =>
    by_cases h : m = n
    · simp [setIn, h]
    · have hne : (m == n) = false := by simpa using h
      simp [setIn, h, List.lookup_cons, hne]
  | cons b bs ih =>
    obtain ⟨k, w⟩ := b
    by_cases h : m = k
    · subst h
      by_cases hk : m = n
      · simp [setIn, hk]
      · simp [setIn, hk]
    · have hne : (m == k) = false := by simpa using h
      by_cases hk : k = n
      · simp [setIn, hk, List.lookup_cons, hk ▸ hne, hk ▸ h]
      · simp [setIn, hk, List.lookup_cons, hne, ih]

/-- Setting a variable changes no other one. -/
theorem get?_set : (ns.set n v).get? m = if m = n then some v else ns.get? m :=
  lookup_setIn ns.bindings

/-- Each helper's name is bound to its own function. -/
def HasHelpers (ns : Namespace) : Prop :=
  ∀ f : Builtin, f.isHelper = true → ns.get? f.name = some (.builtin f)

theorem HasHelpers.runner (h : ns.HasHelpers) (d : Shell.Delivery) :
    ns.find d.runner = .ok (.builtin (.run d)) := by
  have hd : ns.get? d.runner = some (.builtin (.run d)) := h (.run d) rfl
  rw [find, hd]

theorem HasHelpers.quoter (h : ns.HasHelpers) :
    ns.find Shell.quoter = .ok (.builtin .quote) := by
  have hq : ns.get? Shell.quoter = some (.builtin .quote) := h .quote rfl
  rw [find, hq]

/-- Setting a variable other than a helper keeps the helpers. -/
theorem HasHelpers.set (h : ns.HasHelpers) (hn : ¬IsHelperName n) : (ns.set n v).HasHelpers := by
  intro f hf
  rw [get?_set, if_neg fun heq => hn ⟨f, hf, heq⟩]
  exact h f hf

theorem hasHelpers_fresh : fresh.HasHelpers := by
  intro f hf
  cases f with
  | run d => cases d <;> rfl
  | quote => rfl
  | _ => cases hf

end Namespace

/-! ## Values without helpers -/

variable {ω : Type}

/-! ## Clean values -/

mutual

/-- No helper occurs in the value. -/
def Value.Clean : Value → Prop
  | .builtin f => f.isHelper = false
  | .tuple items | .list items => cleanAll items
  | .none | .bool _ | .int _ | .str _ | .method _ _ => True

/-- No helper occurs in the values. -/
def cleanAll : List Value → Prop
  | [] => True
  | v :: vs => v.Clean ∧ cleanAll vs

end

attribute [local simp] Value.Clean cleanAll

theorem cleanAll_iff {vs : List Value} : cleanAll vs ↔ ∀ v ∈ vs, v.Clean := by
  induction vs with
  | nil => simp
  | cons v vs ih => simp [ih]

theorem clean_list {items : List Value} (h : ∀ v ∈ items, v.Clean) : (Value.list items).Clean :=
  cleanAll_iff.mpr h

theorem clean_tuple {items : List Value} (h : ∀ v ∈ items, v.Clean) :
    (Value.tuple items).Clean := cleanAll_iff.mpr h

theorem clean_of_items {v : Value} {items : List Value} (hv : v.Clean)
    (h : v.items? = some items) : ∀ item ∈ items, item.Clean := by
  cases v with
  | str s =>
    cases h
    intro item hitem
    obtain ⟨c, _, rfl⟩ := List.mem_map.mp hitem
    trivial
  | tuple vs | list vs =>
    cases h
    exact cleanAll_iff.mp hv
  | _ => cases h

/-- A list of strings is clean. -/
theorem clean_strings {α : Type} (f : α → String) (xs : List α) :
    (Value.list (xs.map fun x => .str (f x))).Clean := by
  refine clean_list fun v hv => ?_
  obtain ⟨x, _, rfl⟩ := List.mem_map.mp hv
  trivial

/-! ## Operators -/

section Operators

variable {l r v : Value}

theorem clean_unary (op : UnaryOp) (v : Value) : Yields Value.Clean (Value.unary op v) := by
  unfold Value.unary
  split
  · exact .ok trivial
  · split
    · exact .error
    · split <;> exact .map fun _ => trivial

theorem clean_repeatItems {items : List Value} (n : Int64) (hitems : cleanAll items) :
    Yields Value.Clean (Value.repeatItems items n) := by
  refine .map fun count => clean_list fun v hv => ?_
  obtain ⟨copy, hcopy, hv⟩ := List.mem_flatten.mp hv
  rw [List.eq_of_mem_replicate hcopy] at hv
  exact cleanAll_iff.mp hitems v hv

theorem cleanAll_append {a b : List Value} (ha : cleanAll a) (hb : cleanAll b) :
    cleanAll (a ++ b) := by
  rw [cleanAll_iff] at ha hb ⊢
  intro v hv
  rcases List.mem_append.mp hv with h | h
  · exact ha v h
  · exact hb v h

theorem clean_binary (op : BinaryOp) (hl : l.Clean) (hr : r.Clean) :
    Yields Value.Clean (Value.binary op l r) := by
  unfold Value.binary
  split
  · exact .map fun _ => trivial
  · split
    · exact .ok trivial
    · exact .ok (cleanAll_append hl hr)
    · exact .ok (cleanAll_append hl hr)
    · exact .map fun _ => trivial
    · exact .map fun _ => trivial
    · exact clean_repeatItems _ hl
    · exact clean_repeatItems _ hr
    · exact .error

/-- An item at a place of a list is one of the list. -/
theorem mem_of_place {items : List Value} {n : Int} {item : Value}
    (h : (Value.place? items.length n).bind (items[·]?) = some item) : item ∈ items := by
  obtain ⟨k, _, hk⟩ := Option.bind_eq_some_iff.mp h
  exact List.mem_of_getElem? hk

theorem clean_itemAt (index : Value) (hv : v.Clean) : Yields Value.Clean (v.itemAt index) := by
  unfold Value.itemAt
  split
  · exact .error
  · dsimp only
    split
    · split
      · next item hitem =>
        obtain ⟨c, _, rfl⟩ := List.mem_map.mp (mem_of_place hitem)
        exact .ok trivial
      · exact .error
    · split
      · next item hitem => exact .ok (cleanAll_iff.mp hv item (mem_of_place hitem))
      · exact .error
    · split
      · next item hitem => exact .ok (cleanAll_iff.mp hv item (mem_of_place hitem))
      · exact .error
    · exact .error

theorem clean_attribute (v : Value) (name : String) :
    Yields Value.Clean (v.attribute name) := by
  unfold Value.attribute
  split
  · exact .ok trivial
  · exact .error

end Operators

/-! ## Calls -/

theorem clean_method (m : Method) (s : String) (args : Args) :
    Yields Value.Clean (m.call s args) := by
  -- a method gives a string, a truth value or a list of strings, and there is no helper in these
  cases m with
  | splitlines => exact .after fun _ => .ok (clean_strings ..)
  | strip | lstrip | rstrip => exact .after fun _ => .after fun _ => .ok trivial
  | split =>
    refine .after fun sep => ?_
    split
    · exact .ok (clean_strings ..)
    · exact .ok (clean_strings ..)
    · split
      · exact .error
      · exact .ok (clean_strings ..)
    · exact .error
  | startswith | endswith =>
    refine .after fun v => ?_
    split
    · exact .ok trivial
    · exact .error
  | upper | lower => exact .after fun _ => .ok trivial
  | replace =>
    refine .after fun vs => ?_
    split
    · exact .ok trivial
    · exact .error
    · exact .error
    · exact .error
  | join =>
    refine .after fun v => ?_
    split
    · exact .error
    · exact .after fun _ => .ok trivial

/-- The acts of a host keep what is known of the world: writing and flushing always, and commands
where they may be started at all. -/
structure Host.Keeps (host : Host ω) (J : ω → Prop) (commands : Prop) : Prop where
  write : ∀ sink text w, J w → J (host.write sink text w).2
  flush : ∀ sink w, J w → J (host.flush sink w).2
  start : commands → ∀ wiring command w, J w → J (host.start wiring command w).2

/-- What a host is known to keep when nothing is known of it. -/
theorem Host.keepsAnything (host : Host ω) : host.Keeps (fun _ => True) True :=
  ⟨fun _ _ _ _ => trivial, fun _ _ _ => trivial, fun _ _ _ _ _ => trivial⟩

section Calls

variable {host : Host ω} {J : ω → Prop} {commands : Prop} (hhost : host.Keeps J commands)
include hhost

theorem Host.Keeps.emit (sink : Sink) (text : String) (w : ω) (hw : J w) :
    J (host.emit sink text w).2 := by
  unfold Host.emit
  split
  · exact hw
  · exact hhost.write sink text w hw

theorem Host.Keeps.put (sink : Sink) (texts : List String) (w : ω) (hw : J w) :
    J (host.put sink texts w).2 := by
  induction texts generalizing w with
  | nil => exact hhost.flush sink w hw
  | cons text texts ih =>
    have hemit := hhost.emit sink text w hw
    rw [Host.put]
    rcases he : host.emit sink text w with ⟨_ | e, w'⟩
    · rw [he] at hemit
      exact ih w' hemit
    · rw [he] at hemit
      exact hemit

theorem Host.Keeps.pass (sink : Sink) (text : String) (w : ω) (hw : J w) :
    J (host.pass sink text w).2 := by
  unfold Host.pass
  split
  · exact hw
  · exact hhost.put sink [text] w hw

theorem holds_write (texts : List String) : (EvalM.write host texts).Holds J fun _ => True := by
  refine .bind (.act (hhost.put .output texts)) fun r _ => ?_
  cases r with
  | some e => exact .stop
  | none => exact .pure trivial

theorem holds_printValues (args : Args) :
    (Builtin.printValues host args).Holds J Value.Clean := by
  refine .bind (.ofExcept (Q := fun _ => True) fun _ _ => trivial) fun r _ => ?_
  refine .bind (.ofExcept (Q := fun _ => True) fun _ _ => trivial) fun r' _ => ?_
  refine .bind (.ofExcept (Q := fun _ => True) fun _ _ => trivial) fun _ _ => ?_
  exact .bind (holds_write hhost _) fun _ _ => .pure trivial

variable (hcommands : commands)
include hcommands

theorem Host.Keeps.startCommand (wiring : Wiring) (command : String) (w : ω) (hw : J w) :
    J (Shell.start host wiring command w).2 :=
  hhost.start hcommands wiring command w hw

omit hcommands in
theorem Host.Keeps.forward (pieces : List (List UInt8)) (d : Utf8.Decoder) (w : ω)
    (hw : J w) : J (Shell.forward host d pieces w).2 := by
  induction pieces generalizing d w with
  | nil => exact hhost.pass .output _ w hw
  | cons piece pieces ih =>
    rw [Shell.forward]
    have hJ := hhost.pass .output (String.ofList (d.feed piece).1) w hw
    cases he : host.pass .output (String.ofList (d.feed piece).1) w with
    | mk r w' =>
      rw [he] at hJ
      cases r with
      | some e => simpa [he] using hJ
      | none => simpa [he] using ih (d.feed piece).2 w' hJ

theorem Host.Keeps.stream (command : String) (w : ω) (hw : J w) :
    J (Shell.stream host command w).2 := by
  have hJ := hhost.startCommand hcommands .merged command w hw
  unfold Shell.stream
  cases hs : Shell.start host .merged command w with
  | mk r w' =>
    rw [hs] at hJ
    cases r with
    | error e => exact hJ
    | ok child =>
      have hf := hhost.forward (child.pieces.map (·.2)) {} w' hJ
      dsimp only
      cases hr : Shell.forward host {} (child.pieces.map (·.2)) w' with
      | mk r w'' =>
        rw [hr] at hf
        cases r <;> exact hf

theorem Host.Keeps.capture (command : String) (w : ω) (hw : J w) :
    J (Shell.capture host command w).2 := by
  have hJ := hhost.startCommand hcommands .merged command w hw
  unfold Shell.capture
  cases hs : Shell.start host .merged command w with
  | mk r w' =>
    rw [hs] at hJ
    cases r <;> exact hJ

theorem Host.Keeps.captureTriple (command : String) (w : ω) (hw : J w) :
    J (Shell.captureTriple host command w).2 := by
  have hJ := hhost.startCommand hcommands .separate command w hw
  unfold Shell.captureTriple
  cases hs : Shell.start host .separate command w with
  | mk r w' =>
    rw [hs] at hJ
    cases r <;> exact hJ

/-- Running a command gives a clean value: nothing, a text, or two texts and a number. -/
theorem holds_runCommand (d : Shell.Delivery) (command : String) :
    (Builtin.runCommand host d command).Holds J Value.Clean := by
  cases d with
  | stream =>
    exact .bind (.ofRun (hhost.stream hcommands command)) fun _ _ => .pure trivial
  | single =>
    exact .bind (.ofRun (hhost.capture hcommands command)) fun _ _ => .pure trivial
  | triple =>
    refine .bind (.ofRun (hhost.captureTriple hcommands command)) fun c _ => .pure ?_
    exact clean_tuple (by simp)

theorem holds_runGiven (d : Shell.Delivery) (args : Args) :
    (Builtin.runGiven host d args).Holds J Value.Clean := by
  refine .bind (.ofExcept (Q := fun _ => True) fun _ _ => trivial) fun v _ => ?_
  cases v with
  | str command =>
    exact .bind .note fun _ _ => holds_runCommand hhost hcommands d command
  | _ => exact .stop

omit hcommands in
/-- **A call of a built-in function gives a clean value**, and starts commands only if the function is
a helper. -/
theorem holds_builtin (f : Builtin) (args : Args) (hf : f.isHelper = true → commands) :
    (f.call host args).Holds J Value.Clean := by
  cases f with
  | print => exact holds_printValues hhost args
  | len =>
    refine .ofExcept (.after fun v => ?_)
    unfold Builtin.lengthOf
    split
    · exact .ok trivial
    · exact .ok trivial
    · exact .ok trivial
    · exact .error
  | str => exact .ofExcept (.map fun _ => trivial)
  | int =>
    refine .ofExcept (.after fun v => ?_)
    unfold Builtin.toInt
    repeat' split
    all_goals first | exact .ok trivial | exact .error
  | repr => exact .ofExcept (.map fun _ => trivial)
  | range =>
    refine .ofExcept ?_
    unfold Builtin.rangeOf
    refine .after fun vs => .after fun bs => ?_
    -- the three ways to give the bounds end in one list of numbers
    have hlist : ∀ r : Int × Int × Int, Yields Value.Clean
        (if r.2.2 = 0 then throw Fault.zeroStep
          else pure (.list ((Builtin.progression r.1 r.2.1 r.2.2).map fun i =>
            .int (Int64.ofInt i))) : Except Fault Value) := by
      intro r
      split
      · exact .error
      · refine .ok (clean_list fun v hv => ?_)
        obtain ⟨i, _, rfl⟩ := List.mem_map.mp hv
        trivial
    dsimp only
    split <;> exact .after hlist
  | exit => exact .bind (.ofExcept (Q := fun _ => True) fun _ _ => trivial) fun _ _ => .stop
  | run d => exact holds_runGiven hhost (hf rfl) d args
  | quote =>
    refine .ofExcept (.after fun v => ?_)
    unfold Builtin.quoteValue
    split
    · exact .ok trivial
    · exact .error

end Calls

end Tilde

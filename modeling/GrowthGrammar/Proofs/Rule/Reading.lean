import GrowthGrammar.Proofs.System

/-!
# Reading rules into a table

A text is read as a rule in three stages.  First its shape and all of its names are
looked at, without the table (`WrittenRule.ofText`).  Then the names are entered, in
the order of `WrittenRule.entered`.  Last the weight has to be one that a rule may
have, and what has passed the first stage can only fail here by a weight below zero
(`checkWeight_of_isFinite`).

So a refusal in the first stage leaves the table as it was, and a refusal in the last
one leaves it with the names of the rule (`Rule.read_runFrom`).
-/

namespace GrowthGrammar

/-- A sequence of two parts that succeeds is two parts that succeed. -/
theorem ok_of_except_bind {ε α β : Type} {x : Except ε α} {f : α → Except ε β} {b : β}
    (h : (x >>= f) = .ok b) : ∃ a, x = .ok a ∧ f a = .ok b := by
  cases x with
  | ok a => exact ⟨a, rfl, h⟩
  | error e => cases h

/-! ## What a text writes -/

/-- What passes the check of its names is what was found, with valid names. -/
theorem valid_of_checked {α : Type} {found : Except WrittenFault α} {names : α → List String}
    {a : α} (h : (do let a ← found; checkNames (names a); return a) = .ok a) :
    found = .ok a ∧ ∀ name ∈ names a, Name.IsValid name := by
  obtain ⟨other, same, h⟩ := ok_of_except_bind h
  obtain ⟨_, checked, h⟩ := ok_of_except_bind h
  cases h
  exact ⟨same, (checkNames_eq_ok_iff _).mp checked⟩

theorem Head.valid_of_ofText {text : List Char} {head : Head} (h : Head.ofText text = .ok head) :
    ∀ name ∈ head.names, Name.IsValid name :=
  (valid_of_checked h).2

theorem Body.valid_of_ofText {text : List Char} {body : Body} (h : Body.ofText text = .ok body) :
    ∀ name ∈ body.successor, Name.IsValid name :=
  (valid_of_checked h).2

/-- A weight that a body writes is finite. -/
theorem Body.isFinite_of_split {text : List Char} {body : Body} (h : Body.split text = .ok body) :
    body.weight.isFinite = true := by
  have shaped : Body.ofTokens (tokensOf text) = .ok body := by
    unfold Body.split at h
    cases found : Body.ofTokens (tokensOf text) with
    | ok other =>
      rw [found] at h
      cases h
      rfl
    | error fault =>
      rw [found] at h
      cases h
  have standard : (1.0 : Float).isFinite = true := by decide
  unfold Body.ofTokens at shaped
  split at shaped
  · cases shaped
    exact standard
  · split at shaped
    · cases shaped
      exact standard
    · split at shaped
      · cases shaped
        assumption
      · cases shaped

namespace WrittenRule

/-- The names of a rule in the order they are entered. -/
def entered (written : WrittenRule) : List String :=
  written.head.predecessor ::
    (written.body.successor ++ (written.head.left ++ written.head.right))

/-- The parts of a text that writes a rule. -/
theorem parts_of_ofText {text : List Char} {written : WrittenRule}
    (h : WrittenRule.ofText text = .ok written) :
    ∃ before after, Name.splitArrow (Text.trim text) = some (before, after) ∧
      Head.split before = .ok written.head ∧ Body.split after = .ok written.body ∧
      checkNames (written.head.names ++ written.body.successor) = .ok () := by
  unfold WrittenRule.ofText at h
  simp only at h
  split at h
  · cases h
  · split at h
    · cases h
    · rename_i before after cut
      obtain ⟨head, headRead, h⟩ := ok_of_except_bind h
      obtain ⟨body, bodyRead, h⟩ := ok_of_except_bind h
      obtain ⟨_, checked, h⟩ := ok_of_except_bind h
      cases h
      exact ⟨before, after, cut, headRead, bodyRead, checked⟩

theorem valid_of_ofText {text : List Char} {written : WrittenRule}
    (h : WrittenRule.ofText text = .ok written) :
    ∀ name ∈ written.entered, Name.IsValid name := by
  obtain ⟨_, _, -, -, -, checked⟩ := parts_of_ofText h
  intro name member
  refine (checkNames_eq_ok_iff _).mp checked name ?_
  simp only [entered, Head.names, List.mem_cons, List.mem_append] at member ⊢
  grind

theorem isFinite_of_ofText {text : List Char} {written : WrittenRule}
    (h : WrittenRule.ofText text = .ok written) : written.body.weight.isFinite = true := by
  obtain ⟨_, _, -, -, bodyRead, -⟩ := parts_of_ofText h
  exact Body.isFinite_of_split bodyRead

end WrittenRule

/-! ## Entering a rule -/

namespace Vocabulary

/-- The rule that some names write, with the symbols they get when they are entered. -/
def ruleOf (v : Vocabulary) (written : WrittenRule) : Rule where
  predecessor := (v.symbol written.head.predecessor).1
  successor := (v.addAll [written.head.predecessor]).wordOf written.body.successor
  left := (v.addAll (written.head.predecessor :: written.body.successor)).wordOf written.head.left
  right := (v.addAll (written.head.predecessor ::
    (written.body.successor ++ written.head.left))).wordOf written.head.right
  weight := written.body.weight

/-- The parts of a head, with the symbols that its names get when they are entered. -/
def headOf (v : Vocabulary) (head : Head) : Word × Symbol × Word :=
  (v.wordOf head.left, ((v.addAll head.left).symbol head.predecessor).1,
    (v.addAll (head.left ++ [head.predecessor])).wordOf head.right)

/-- Entering a rule gives it symbols that are contained afterwards. -/
theorem contains_of_mem_ruleOf {v : Vocabulary} {written : WrittenRule} {s : Symbol}
    (member : s ∈ (v.ruleOf written).symbols) :
    (v.addAll written.entered).contains s = true := by
  have given : s ∈ v.wordOf written.entered := by
    simp only [Rule.symbols, ruleOf, WrittenRule.entered, wordOf_cons, wordOf_append, List.mem_cons,
      List.mem_append, addAll_cons, addAll_append, addAll_nil] at member ⊢
    grind
  exact contains_of_mem_wordOf given

end Vocabulary

namespace Rule

theorem checkWeight_of_isFinite {weight : Float} (finite : weight.isFinite = true) :
    checkWeight weight =
      if weight < 0 then .error (.settings (.weightRange weight)) else .ok weight := by
  simp [checkWeight, finite]

/-- A weight that passes stays as it is. -/
theorem eq_of_checkWeight {weight checked : Float} (passed : checkWeight weight = .ok checked) :
    checked = weight := by
  rw [checkWeight] at passed
  split at passed
  · cases passed
  · exact (Except.ok.inj passed).symm

/-- Valid names are entered whatever the weight is, which is looked at last. -/
theorem ofWritten_runFrom_of_valid {t : NameTable} (free : t.lock.IsFree) {written : WrittenRule}
    (valid : ∀ name ∈ written.entered, Name.IsValid name) :
    (ofWritten written).runFrom t =
      ((checkWeight written.body.weight).map fun _ => t.value.ruleOf written,
        t.addAll written.entered) := by
  have predecessorValid : Name.IsValid written.head.predecessor :=
    valid _ (by simp [WrittenRule.entered])
  have successorValid : ∀ name ∈ written.body.successor, Name.IsValid name :=
    fun name member => valid name (by simp [WrittenRule.entered, member])
  have leftValid : ∀ name ∈ written.head.left, Name.IsValid name :=
    fun name member => valid name (by simp [WrittenRule.entered, member])
  have rightValid : ∀ name ∈ written.head.right, Name.IsValid name :=
    fun name member => valid name (by simp [WrittenRule.entered, member])
  rw [ofWritten, Step.runFrom_bind_ok (NameTable.enter_runFrom free predecessorValid),
    Step.runFrom_bind_ok (NameTable.enterAll_runFrom (by simpa using free) successorValid),
    Step.runFrom_bind_ok (NameTable.enterAll_runFrom (by simpa using free) leftValid),
    Step.runFrom_bind_ok (NameTable.enterAll_runFrom (by simpa using free) rightValid)]
  have beforeRight : [written.head.predecessor] ++ written.body.successor ++ written.head.left =
      written.head.predecessor :: (written.body.successor ++ written.head.left) := by simp
  have all : written.head.predecessor :: (written.body.successor ++ written.head.left) ++
      written.head.right = written.entered := by simp [WrittenRule.entered]
  simp only [← NameTable.addAll_append, beforeRight, all, Step.runFrom_mk_pure, make]
  cases checked : checkWeight written.body.weight with
  | error e => rfl
  | ok weight =>
    obtain rfl := eq_of_checkWeight checked
    rfl

theorem ofWritten_runFrom {t : NameTable} (free : t.lock.IsFree) {written : WrittenRule}
    (valid : ∀ name ∈ written.entered, Name.IsValid name)
    (finite : written.body.weight.isFinite = true) :
    (ofWritten written).runFrom t =
      (if written.body.weight < 0 then .error (.settings (.weightRange written.body.weight))
        else .ok (t.value.ruleOf written), t.addAll written.entered) := by
  rw [ofWritten_runFrom_of_valid free valid, checkWeight_of_isFinite finite]
  split <;> rfl

/-- A text that writes no rule is refused before any name is entered. -/
theorem read_runFrom_of_fault (t : NameTable) {text : String} {fault : WrittenFault}
    (refused : WrittenRule.ofText text.toList = .error fault) :
    (read text).runFrom t = (.error (.parse (.written fault)), t) := by
  simp only [read, refused]
  rw [Step.runFrom_bind_error (NameTable.ofWritten_error_runFrom _ _)]

/-- A rule with a weight below zero is refused when all of its names have been entered. -/
theorem read_runFrom_of_negative {t : NameTable} (free : t.lock.IsFree) {text : String}
    {written : WrittenRule} (found : WrittenRule.ofText text.toList = .ok written)
    (negative : written.body.weight < 0) :
    (read text).runFrom t =
      (.error (.settings (.weightRange written.body.weight)), t.addAll written.entered) := by
  simp only [read, found]
  rw [Step.runFrom_bind_ok (NameTable.ofWritten_ok_runFrom _ _),
    ofWritten_runFrom free (WrittenRule.valid_of_ofText found)
      (WrittenRule.isFinite_of_ofText found), if_pos negative]

/-- A text that writes a rule with any other weight is read as that rule. -/
theorem read_runFrom {t : NameTable} (free : t.lock.IsFree) {text : String}
    {written : WrittenRule} (found : WrittenRule.ofText text.toList = .ok written)
    (accepted : ¬ written.body.weight < 0) :
    (read text).runFrom t = (.ok (t.value.ruleOf written), t.addAll written.entered) := by
  simp only [read, found]
  rw [Step.runFrom_bind_ok (NameTable.ofWritten_ok_runFrom _ _),
    ofWritten_runFrom free (WrittenRule.valid_of_ofText found)
      (WrittenRule.isFinite_of_ofText found), if_neg accepted]

/-! ## Entering a head or a body -/

theorem readHead_runFrom_of_fault (t : NameTable) {text : String} {fault : WrittenFault}
    (refused : Head.ofText text.toList = .error fault) :
    (readHead text).runFrom t = (.error (.parse (.written fault)), t) := by
  simp only [readHead, refused]
  rw [Step.runFrom_bind_error (NameTable.ofWritten_error_runFrom _ _)]

/-- A text that writes a head is read as its names with the symbols they get. -/
theorem readHead_runFrom {t : NameTable} (free : t.lock.IsFree) {text : String} {head : Head}
    (found : Head.ofText text.toList = .ok head) :
    (readHead text).runFrom t = (.ok (t.value.headOf head), t.addAll head.names) := by
  have valid := Head.valid_of_ofText found
  have leftValid : ∀ name ∈ head.left, Name.IsValid name :=
    fun name member => valid name (by simp [Head.names, member])
  have predecessorValid : Name.IsValid head.predecessor := valid _ (by simp [Head.names])
  have rightValid : ∀ name ∈ head.right, Name.IsValid name :=
    fun name member => valid name (by simp [Head.names, member])
  have all : head.left ++ [head.predecessor] ++ head.right = head.names := by simp [Head.names]
  simp only [readHead, found]
  rw [Step.runFrom_bind_ok (NameTable.ofWritten_ok_runFrom _ _),
    Step.runFrom_bind_ok (NameTable.enterAll_runFrom free leftValid),
    Step.runFrom_bind_ok (NameTable.enter_runFrom (by simpa using free) predecessorValid),
    Step.runFrom_bind_ok (NameTable.enterAll_runFrom (by simpa using free) rightValid)]
  simp only [← NameTable.addAll_append, all, Step.runFrom_pure]
  rfl

theorem readBody_runFrom_of_fault (t : NameTable) {text : String} {fault : WrittenFault}
    (refused : Body.ofText text.toList = .error fault) :
    (readBody text).runFrom t = (.error (.parse (.written fault)), t) := by
  simp only [readBody, refused]
  rw [Step.runFrom_bind_error (NameTable.ofWritten_error_runFrom _ _)]

/-- A text that writes a body is never refused. -/
theorem readBody_runFrom {t : NameTable} (free : t.lock.IsFree) {text : String} {body : Body}
    (found : Body.ofText text.toList = .ok body) :
    (readBody text).runFrom t =
      (.ok (body.weight, t.value.wordOf body.successor), t.addAll body.successor) := by
  simp only [readBody, found]
  rw [Step.runFrom_bind_ok (NameTable.ofWritten_ok_runFrom _ _),
    Step.runFrom_bind_ok (NameTable.enterAll_runFrom free (Body.valid_of_ofText found))]
  rfl

end Rule

/-! ## Registering a text -/

namespace System

/-- A text that is refused as a rule is refused by a system, with the same table. -/
theorem addText_runFrom_of_refused {system : System} {text : String} {e : Error} {table : NameTable}
    (refused : (Rule.read text).runFrom system.table = (.error e, table)) :
    (addText text).runFrom system = (.error e, { system with table := table }) := by
  rw [addText, Step.runFrom_bind_error (onTable_runFrom refused)]

/-- A rule that was read into the table of a system is registered. -/
theorem addText_runFrom {system : System} (tableFree : system.table.lock.IsFree)
    (storeFree : system.store.guarded.lock.IsFree) {text : String} {written : WrittenRule}
    (found : WrittenRule.ofText text.toList = .ok written)
    (accepted : ¬ written.body.weight < 0) :
    (addText text).runFrom system =
      (.ok (system.table.value.ruleOf written),
        { system with table := system.table.addAll written.entered }.withRule
          (system.table.value.ruleOf written)) := by
  rw [addText, Step.runFrom_bind_ok (onTable_runFrom (Rule.read_runFrom tableFree found accepted))]
  generalize entered :
    ({ system with table := system.table.addAll written.entered } : System) = grown
  have known : grown.Knows (system.table.value.ruleOf written).symbols := by
    rw [← entered]
    exact fun s member => Vocabulary.contains_of_mem_ruleOf member
  exact add_runFrom (by rwa [← entered]) (by rwa [← entered]) known

/-- Registering a text leaves the table as reading it does, and no lock is held. -/
theorem addText_state {system : System} (tableFree : system.table.lock.IsFree)
    (storeFree : system.store.guarded.lock.IsFree) (text : String) :
    ((addText text).runFrom system).2.table = ((Rule.read text).runFrom system.table).2 ∧
      ((addText text).runFrom system).2.store.guarded.lock.IsFree := by
  cases found : WrittenRule.ofText text.toList with
  | error fault =>
    have refused := Rule.read_runFrom_of_fault system.table found
    rw [addText_runFrom_of_refused refused, refused]
    exact ⟨rfl, storeFree⟩
  | ok written =>
    by_cases negative : written.body.weight < 0
    · have refused := Rule.read_runFrom_of_negative tableFree found negative
      rw [addText_runFrom_of_refused refused, refused]
      exact ⟨rfl, storeFree⟩
    · rw [addText_runFrom tableFree storeFree found negative,
        Rule.read_runFrom tableFree found negative]
      exact ⟨rfl, storeFree⟩

end System

end GrowthGrammar

import QueryLoom.Proofs.MapEntries
import QueryLoom.Proofs.RenderSteps
import QueryLoom.Proofs.SpelledPaths

/-!
# Lookup in layers

A path leads to the same value in the layers of a scope and in the one object that they are laid
over each other to, unless the lowest layer is an array. So what markers, conditions and template
text of a document read is one object.
-/

namespace QueryLoom

/-! ### Paths -/

namespace Path

lemma respell_ne_nil {path : Path} (h : path ≠ []) (f : String → String) : path.respell f ≠ [] := by
  simpa [respell] using h

end Path

/-! ### Scopes -/

namespace Scope

/-- A change of the frames of a scope. -/
inductive Change where
  | push (entries : List (String × Json))
  | pop
  | set (key : String) (value : Json)

/-- The scope after a change. A frame is a map of entries. -/
def Change.run (s : Scope) : Change → Scope
  | .push entries => s.push (KeyMap.ofEntries entries)
  | .pop => s.pop
  | .set key value => s.set key value

/-- The scope after some changes, one after the other. -/
def runAll (s : Scope) (changes : List Change) : Scope := changes.foldl Change.run s

/-- All frames have ascending keys. -/
def Tidy (s : Scope) : Prop := ∀ frame ∈ s.frames, KeyMap.Ascending frame

lemma tidy_ofBag (bag : Json) : (ofBag bag).Tidy := by
  intro frame hframe
  rw [List.mem_singleton.mp hframe]
  exact List.Pairwise.nil

lemma Tidy.run {s : Scope} (h : s.Tidy) (change : Change) : (change.run s).Tidy := by
  obtain ⟨htop, hbelow⟩ := List.forall_mem_cons.mp h
  cases change with
  | push entries =>
    refine List.forall_mem_cons.mpr ⟨?_, h⟩
    exact KeyMap.ascending_ofEntries entries
  | pop =>
    obtain ⟨base, top, _ | ⟨next, below⟩⟩ := s
    · exact h
    · exact hbelow
  | set key value =>
    refine List.forall_mem_cons.mpr ⟨?_, hbelow⟩
    exact htop.insert key value

lemma Tidy.runAll {s : Scope} (h : s.Tidy) (changes : List Change) : (s.runAll changes).Tidy := by
  induction changes generalizing s with
  | nil => exact h
  | cons change changes ih => exact ih (h.run change)

lemma base_run (s : Scope) (change : Change) : (change.run s).base = s.base := by
  cases change with
  | push entries => rfl
  | pop => obtain ⟨base, top, _ | ⟨next, below⟩⟩ := s <;> rfl
  | set key value => rfl

lemma base_runAll (s : Scope) (changes : List Change) : (s.runAll changes).base = s.base := by
  induction changes generalizing s with
  | nil => rfl
  | cons change changes ih => exact (ih (change.run s)).trans (base_run s change)

/-! ### One object -/

/-- The first frame with the key decides, and then what lies below all frames. -/
lemma get?_foldr_overlay {frames : List (KeyMap Json)} (h : ∀ frame ∈ frames, frame.Ascending)
    (key : String) (bottom : KeyMap Json) :
    KeyMap.get? key (frames.foldr (fun frame acc => KeyMap.overlay acc frame) bottom) =
      (frames.findSome? (KeyMap.get? key)).or (KeyMap.get? key bottom) := by
  induction frames with
  | nil => rfl
  | cons frame frames ih =>
    obtain ⟨hframe, hframes⟩ := List.forall_mem_cons.mp h
    rw [List.foldr_cons, KeyMap.get?_overlay hframe.nodup, ih hframes, List.findSome?_cons]
    cases KeyMap.get? key frame <;> rfl

/-- The entries of the lowest layer. -/
def entriesOf : Json → KeyMap Json
  | .object entries => entries
  | _ => []

lemma flatten_eq (s : Scope) : s.flatten =
    .object (s.frames.foldr (fun frame acc => KeyMap.overlay acc frame) (entriesOf s.base)) := rfl

/-- One step from the lowest layer leads where it leads from the entries, unless that layer is an
array. -/
lemma follow?_entriesOf {base : Json} (hbase : ∀ items, base ≠ .array items) (step : PathStep) :
    Path.PathStep.follow? step base = Path.PathStep.follow? step (.object (entriesOf base)) := by
  cases base with
  | array items => exact absurd rfl (hbase items)
  | object entries => rfl
  | _ => cases step <;> rfl

lemma lookup?_flatten {s : Scope} (hs : s.Tidy) (hbase : ∀ items, s.base ≠ .array items)
    {path : Path} (hpath : path ≠ []) : s.lookup? path = Path.walk? path s.flatten := by
  obtain ⟨step, rest, rfl⟩ := List.exists_cons_of_ne_nil hpath
  cases step with
  | index n =>
    have hlookup : s.lookup? (.index n :: rest) = Path.walk? (.index n :: rest) s.base := rfl
    rw [hlookup, Path.walk?, Path.walk?, follow?_entriesOf hbase]
    rfl
  | key k =>
    have hfollow : Path.PathStep.follow? (.key k) s.flatten =
        (s.frames.findSome? (KeyMap.get? k)).or (Path.PathStep.follow? (.key k) s.base) := by
      rw [follow?_entriesOf hbase, flatten_eq]
      exact get?_foldr_overlay hs k _
    rw [lookup?, Path.walk?, Path.walk?, hfollow]
    cases s.frames.findSome? (KeyMap.get? k) <;> rfl

/-- In every spelling a path leads to the same value in the layers and in the one object. -/
lemma resolve?_eq {s : Scope} (hs : s.Tidy) (hbase : ∀ items, s.base ≠ .array items) :
    s.resolve? = s.flatten.resolve? := by
  funext text
  rw [resolve?, Json.resolve?]
  cases hparse : Path.parse? text with
  | none => rfl
  | some path =>
    have hpath : path ≠ [] := Path.parse?_ne_nil hparse
    simp only [Option.bind_some, Path.spellings, List.findSome?_cons, List.findSome?_nil,
      lookup?_flatten hs hbase hpath, lookup?_flatten hs hbase (Path.respell_ne_nil hpath _)]

lemma resolve?_ofBag_flatten {s : Scope} (hs : s.Tidy) (hbase : ∀ items, s.base ≠ .array items) :
    (ofBag s.flatten).resolve? = s.resolve? := by
  rw [resolve?_eq hs hbase]
  exact resolve?_eq (tidy_ofBag s.flatten) nofun

end Scope

/-! ### Rendering -/

namespace Markup

open Condition (Expr)

lemma substitute_congr {s s' : Scope} (h : s.resolve? = s'.resolve?) (d : Dialect)
    (text : String) : substitute s d text = substitute s' d text := by
  have hvalue : Segment.value? s = Segment.value? s' := by
    funext inside
    rw [Segment.value?, Segment.value?, h]
  have hwrite : Segment.write s d = Segment.write s' d := by
    funext segment
    cases segment <;> simp only [Segment.write, hvalue]
  have hunresolved : Segment.unresolved? s = Segment.unresolved? s' := by
    funext segment
    cases segment <;> simp only [Segment.unresolved?, hvalue]
  simp only [substitute, hwrite, hunresolved]

namespace Render

variable {σ : Type}

lemma fst_run_text (setting : Setting σ) (included : Inclusion → Render σ String) (text : String)
    (s : Session σ) :
    ((node setting included (.text text)).run s).1 =
      if Text.contains text "\x7b\x7b" then
        (setting.expand text s.scope.flatten s.expansion).bind fun (text, _) =>
          substitute s.scope setting.dialect text
      else substitute s.scope setting.dialect text := by
  rw [node, run_bind, run_expand]
  by_cases hbraces : Text.contains text "\x7b\x7b" = true
  · rw [if_pos hbraces, if_pos hbraces]
    cases setting.expand text s.scope.flatten s.expansion <;> rfl
  · rw [if_neg hbraces, if_neg hbraces]
    rfl

lemma fst_run_test (source : String) (s : Session σ) :
    ((test source).run s).1 = .ok (match (Expr.parse source).bind (·.test s.scope.resolve?) with
      | .ok b => b
      | .error _ => false) := by
  rw [test, run_bind, run_scope]
  dsimp only
  cases (Expr.parse source).bind (·.test s.scope.resolve?) <;> rfl

end Render

end Markup

namespace Scope

/-- After any changes of the frames over a bag, a path leads to the same value in the layers and in
the one object that they are laid over each other to. A text node and a condition give the same over
the layers as over that object, which is the view for which template text is expanded. -/
theorem resolve?_flatten (bag : Json) (hbag : ∀ items, bag ≠ .array items)
    (changes : List Change) :
    let s := (ofBag bag).runAll changes
    (∀ path, s.resolve? path = s.flatten.resolve? path) ∧
    (ofBag s.flatten).flatten = s.flatten ∧
    ∀ (σ : Type) (setting : Markup.Setting σ) included (x : σ) events,
      let layered : Markup.Session σ := ⟨s, x, events⟩
      let flat : Markup.Session σ := ⟨ofBag s.flatten, x, events⟩
      (∀ text, ((Markup.Render.node setting included (.text text)).run layered).1 =
        ((Markup.Render.node setting included (.text text)).run flat).1) ∧
      ∀ source, ((Markup.Render.test source).run layered).1 =
        ((Markup.Render.test source).run flat).1 := by
  intro s
  have hs : s.Tidy := (tidy_ofBag bag).runAll changes
  have hbase : ∀ items, s.base ≠ .array items := by
    rw [base_runAll]
    exact hbag
  have hresolve : s.resolve? = (ofBag s.flatten).resolve? := (resolve?_ofBag_flatten hs hbase).symm
  refine ⟨fun path => by rw [resolve?_eq hs hbase], rfl, fun σ setting included x events => ?_⟩
  intro layered flat
  constructor
  · intro text
    rw [Markup.Render.fst_run_text, Markup.Render.fst_run_text]
    simp only [layered, flat, Markup.substitute_congr hresolve]
    rfl
  · intro source
    rw [Markup.Render.fst_run_test, Markup.Render.fst_run_test]
    simp only [layered, flat, hresolve]

/-- A value over a key of the bag, a frame that is removed again, and one that stays. -/
def loopChanges : List Change :=
  [.set "n" .null, .push [("user", .object [])], .pop, .push [("item", .array [.int 7])]]

/-- A path that is found in its camel spelling, a hidden key, an item, and a malformed path. -/
theorem resolve?_flatten_loop :
    let bag : Json := .object [("n", .int 1), ("user", .object [("firstName", .string "Ada")])]
    let s := (ofBag bag).runAll loopChanges
    (∀ path, s.resolve? path = s.flatten.resolve? path) ∧
    s.resolve? "user.first_name" = some (.string "Ada") ∧ s.resolve? "n" = some .null ∧
    s.resolve? "item[0]" = some (.int 7) ∧ s.resolve? "user[" = none := by
  intro bag s
  obtain ⟨hresolve, -⟩ := resolve?_flatten bag nofun loopChanges
  have huser : Path.parse? "user.first_name" = some [.key "user", .key "first_name"] := by
    decide +kernel
  have hfirst : Text.snakeToCamel "first_name" = "firstName" := by decide +kernel
  have hsame : Text.snakeToCamel "user" = "user" := by decide +kernel
  have hn : Path.parse? "n" = some [.key "n"] := by decide +kernel
  have hitem : Path.parse? "item[0]" = some [.key "item", .index 0] := by decide +kernel
  have hopen : Path.parse? "user[" = none := by decide +kernel
  refine ⟨hresolve, ?_, ?_, ?_, ?_⟩
  · simp only [resolve?, huser, Option.bind_some, Path.spellings, Path.respell, List.map_cons,
      List.map_nil, hfirst, hsame]
    rfl
  · rw [resolve?, hn]
    rfl
  · rw [resolve?, hitem]
    rfl
  · rw [resolve?, hopen]
    rfl

/-- In an array a path can lead to an item, which is not in the one object. -/
example : (ofBag (.array [.int 7])).resolve? "[0]" = some (.int 7) ∧
    (ofBag (.array [.int 7])).flatten.resolve? "[0]" = none := by
  have hparse : Path.parse? "[0]" = some [.index 0] := by decide +kernel
  rw [resolve?, Json.resolve?, hparse]
  constructor <;> rfl

end Scope

end QueryLoom

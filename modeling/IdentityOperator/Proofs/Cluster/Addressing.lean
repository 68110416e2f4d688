import IdentityOperator.Cluster.ApiCall
import IdentityOperator.Proofs.Http.Path

/-!
Where the requests of calls go.

A request carries the name and the namespace of an object in its path, as they are: nothing is
escaped. So a call reaches the object that it is about only if both can stand there as one segment
each (`Kind.addresses`), and then its request is what it looks like (`ClusterCall.request_get` and
its like).
-/

namespace IdentityOperator

/-! ## Segments -/

namespace Http.Target

/-- Whether a text stands in a path as one segment that means the text itself: there is nothing in
it that a path cannot hold, that ends a segment or that is taken for something else. -/
def isSegment (text : String) : Bool :=
  text ≠ "" && text ≠ "." && text ≠ ".." &&
    text.toList.all fun c => inPath c && c ≠ '/' && c ≠ '%'

theorem inPath_of_isSegment {text : String} (segment : isSegment text = true) :
    ∀ c ∈ text.toList, inPath c = true := by
  simp only [isSegment, Bool.and_eq_true, List.all_eq_true] at segment
  exact fun c mem => (segment.2 c mem).1.1

theorem no_slash_of_isSegment {text : String} (segment : isSegment text = true) :
    '/' ∉ text.toList := by
  simp only [isSegment, Bool.and_eq_true, List.all_eq_true] at segment
  exact fun mem => of_decide_eq_true (segment.2 '/' mem).1.2 rfl

theorem ne_empty_of_isSegment {text : String} (segment : isSegment text = true) : text ≠ "" := by
  simp only [isSegment, Bool.and_eq_true, decide_eq_true_eq] at segment
  exact segment.1.1.1

/-- A path that holds nothing but what may stand in it is sent as it is, with or without the mark of
a query behind it. -/
theorem ofText?_path {path behind : String} (in_path : ∀ c ∈ path.toList, inPath c = true)
    (no_query : behind = "" ∨ behind = "?") (fits : path.utf8ByteSize < longest) :
    ofText? (path ++ behind) = .ok { path } := by
  have short : ¬ longest < (path ++ behind).utf8ByteSize := by
    have behind_size : behind.utf8ByteSize ≤ 1 := by
      rcases no_query with rfl | rfl <;> decide
    rw [String.utf8ByteSize_append]
    omega
  have no_mark : ∀ c ∈ path.toList, c ≠ '#' ∧ c ≠ '?' := by
    refine fun c mem => ⟨?_, ?_⟩ <;>
    · rintro rfl
      exact absurd (in_path _ mem) (by decide)
  have sent : (path ++ behind).toList.takeWhile (· ≠ '#') = path.toList ++ behind.toList := by
    rw [String.toList_append, List.takeWhile_eq_self_iff]
    intro c mem
    rcases List.mem_append.1 mem with mem | mem
    · exact decide_eq_true (no_mark c mem).1
    · rcases no_query with rfl | rfl
      · cases mem
      · cases List.mem_singleton.1 mem
        decide
  have cut : Split.first '?' (path.toList ++ behind.toList) = (path.toList, []) := by
    have before : ∀ c ∈ path.toList, decide (c ≠ '?') = true := fun c mem =>
      decide_eq_true (no_mark c mem).2
    rw [Split.first, List.takeWhile_append_of_pos before, List.dropWhile_append_of_pos before]
    rcases no_query with rfl | rfl <;> simp
  have all_in_path : path.toList.all inPath = true := List.all_eq_true.2 in_path
  rw [ofText?, if_neg short]
  simp only [sent, cut, all_in_path, List.all_nil, Bool.and_self, if_true, String.ofList_toList]
  rfl

end Http.Target

namespace Kind

variable {kind : Kind} {key : ObjectKey}

/-! ## Places of objects -/

/-- Whether requests for an object reach it: its name and its namespace can stand in their path, and
the path is short enough to be sent. -/
def addresses (kind : Kind) (key : ObjectKey) : Bool :=
  Http.Target.isSegment key.name && Http.Target.isSegment key.ns &&
    (kind.objectPath key).utf8ByteSize < Http.Target.longest

theorem addresses_iff : kind.addresses key = true ↔ Http.Target.isSegment key.name = true ∧
    Http.Target.isSegment key.ns = true ∧
    (kind.objectPath key).utf8ByteSize < Http.Target.longest := by
  simp [addresses, and_assoc]

theorem inPath_collectionPath {ns : String} (segment : Http.Target.isSegment ns = true) :
    ∀ c ∈ (kind.collectionPath ns).toList, Http.Target.inPath c = true := by
  have base : ∀ c ∈ kind.basePath.toList, Http.Target.inPath c = true := by
    rw [← List.all_eq_true]
    cases kind <;> decide
  have plural : ∀ c ∈ kind.plural.toList, Http.Target.inPath c = true := by
    rw [← List.all_eq_true]
    cases kind <;> decide
  have between : ∀ c ∈ "/namespaces/".toList, Http.Target.inPath c = true := by
    rw [← List.all_eq_true]
    decide
  have slash : ∀ c ∈ "/".toList, Http.Target.inPath c = true := by
    rw [← List.all_eq_true]
    decide
  simp only [collectionPath, String.toList_append, List.forall_mem_append]
  exact ⟨⟨⟨⟨base, between⟩, Http.Target.inPath_of_isSegment segment⟩, slash⟩, plural⟩

theorem inPath_objectPath (addressed : kind.addresses key = true) :
    ∀ c ∈ (kind.objectPath key).toList, Http.Target.inPath c = true := by
  obtain ⟨name, ns, -⟩ := addresses_iff.1 addressed
  have slash : ∀ c ∈ "/".toList, Http.Target.inPath c = true := by
    rw [← List.all_eq_true]
    decide
  simp only [objectPath, String.toList_append, List.forall_mem_append]
  exact ⟨⟨inPath_collectionPath ns, slash⟩, Http.Target.inPath_of_isSegment name⟩

theorem size_collectionPath (addressed : kind.addresses key = true) :
    (kind.collectionPath key.ns).utf8ByteSize < Http.Target.longest := by
  have fits := (addresses_iff.1 addressed).2.2
  rw [objectPath, String.utf8ByteSize_append, String.utf8ByteSize_append] at fits
  omega

end Kind

/-! ## Requests of calls -/

/-- A request to a place, with no query. -/
def ApiRequest.to (method : Http.Method) (path : String) (body : Option Json := none) :
    ApiRequest :=
  { method, target := { path }, body }

namespace ClusterCall

variable {kind : Kind} {key : ObjectKey} {o : Object}

theorem about?_of_addresses (addressed : kind.addresses key = true) {behind : String}
    (no_query : behind = "" ∨ behind = "?") (method : Http.Method) (body : Option Json) :
    ApiRequest.about? method kind key behind body =
      .ok (ApiRequest.to method (kind.objectPath key) body) := by
  obtain ⟨name, -, fits⟩ := Kind.addresses_iff.1 addressed
  rw [ApiRequest.about?, if_neg (Http.Target.ne_empty_of_isSegment name), ApiRequest.at?,
    Http.Target.ofText?_path (Kind.inPath_objectPath addressed) no_query fits]
  rfl

theorem request_get (addressed : kind.addresses key = true) :
    (get kind key).request = .ok (ApiRequest.to .get (kind.objectPath key)) :=
  about?_of_addresses addressed (.inl rfl) .get none

theorem request_update (addressed : o.kind.addresses o.key = true) :
    (update o).request = .ok (ApiRequest.to .put (o.kind.objectPath o.key) (some o.toJson)) :=
  about?_of_addresses addressed (.inr rfl) .put (some o.toJson)

theorem request_delete (addressed : o.kind.addresses o.key = true) :
    (delete o).request =
      .ok (ApiRequest.to .delete (o.kind.objectPath o.key) (some (.object []))) :=
  about?_of_addresses addressed (.inr rfl) .delete (some (.object []))

theorem request_create (addressed : o.kind.addresses o.key = true) :
    (create o).request =
      .ok (ApiRequest.to .post (o.kind.collectionPath o.key.ns) (some o.toJson)) := by
  have in_path : ∀ c ∈ (o.kind.collectionPath o.key.ns).toList, Http.Target.inPath c = true :=
    Kind.inPath_collectionPath (Kind.addresses_iff.1 addressed).2.1
  rw [request, ApiRequest.at?,
    Http.Target.ofText?_path in_path (.inr rfl) (Kind.size_collectionPath addressed)]
  rfl

end ClusterCall

end IdentityOperator

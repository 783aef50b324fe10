import Abacus.LineEditor.GraphemeClass

/-! Extended grapheme clusters: the characters that a user sees.  A cluster grows from left to
right, and whether the next character joins it depends on the cluster alone. -/

namespace Abacus.LineEditor

/-- There is a first character, and it is of the given class. -/
def headIs (wanted : GraphemeClass) (cs : List Char) : Bool :=
  cs.head?.any fun c => graphemeClass c = wanted

/-- The cluster ends in a consonant and signs behind it, at least one of them a linker.  Clusters
are given with the last character first. -/
def endsInConjunct (cluster : List Char) : Bool :=
  (cluster.takeWhile isConjunctSign).any isLinker &&
    headIs .consonant (cluster.dropWhile isConjunctSign)

/-- The cluster ends in a pictograph and characters that extend it. -/
def endsInPictograph (cluster : List Char) : Bool :=
  headIs .pictograph (cluster.dropWhile fun c => graphemeClass c = .extend)

/-- The cluster ends in half a flag whose other half is missing. -/
def endsInHalfFlag (cluster : List Char) : Bool :=
  (cluster.takeWhile fun c => graphemeClass c = .regional).length % 2 = 1

/-- The character `c` joins the cluster that ends in `last`, with the characters `earlier` before
it, the last first. -/
def joins (last : Char) (earlier : List Char) (c : Char) : Bool :=
  match graphemeClass last, graphemeClass c with
  | .carriageReturn, .lineFeed => true
  | .carriageReturn, _ | .lineFeed, _ | .control, _ => false
  | _, .carriageReturn | _, .lineFeed | _, .control => false
  | .leading, .leading | .leading, .vowel => true
  | .leading, .openSyllable | .leading, .closedSyllable => true
  | .openSyllable, .vowel | .openSyllable, .trailing => true
  | .vowel, .vowel | .vowel, .trailing => true
  | .closedSyllable, .trailing | .trailing, .trailing => true
  | _, .extend | _, .joiner | _, .spacing => true
  | .prepended, _ => true
  | _, .consonant => endsInConjunct (last :: earlier)
  | .joiner, .pictograph => endsInPictograph earlier
  | .regional, .regional => endsInHalfFlag (last :: earlier)
  | _, _ => false

/-- The clusters of a text whose first cluster begins with `earlier` and `last`. -/
def clustersFrom (last : Char) (earlier : List Char) : List Char → List (List Char)
  | [] => [(last :: earlier).reverse]
  | c :: cs =>
    if joins last earlier c then clustersFrom c (last :: earlier) cs
    else (last :: earlier).reverse :: clustersFrom c [] cs

/-- The clusters of a text, from the first to the last. -/
def clusters : List Char → List (List Char)
  | [] => []
  | c :: cs => clustersFrom c [] cs

theorem flatten_clustersFrom (last : Char) (earlier cs : List Char) :
    (clustersFrom last earlier cs).flatten = (last :: earlier).reverse ++ cs := by
  induction cs generalizing last earlier with
  | nil => simp [clustersFrom]
  | cons c cs ih =>
    unfold clustersFrom
    split <;> simp [ih]

/-- The clusters of a text make up the text. -/
@[simp] theorem flatten_clusters (cs : List Char) : (clusters cs).flatten = cs := by
  cases cs with
  | nil => rfl
  | cons c cs => simp [clusters, flatten_clustersFrom]

end Abacus.LineEditor

import JobPosting.Vocabulary

/-!
# Host names

A host name is read as labels between dots. The last label, or the last two if they are known to belong together,
make up its public suffix; what stands before it says whose host it is.

* `HostName.labels` : the labels of a host.
* `HostName.isWithin` : a host is a domain or lies below it.
* `HostName.suffixLength` : how many labels the public suffix has.
* `HostName.company` : the label that names the company.
* `HostName.provider` : the label that names the provider of an unknown site.

`isWithin_iff` says that a host lies within a domain exactly if it is the domain or ends in a dot and the domain, and
`isWithin_iff_labels` that its last labels are then those of the domain.
-/

namespace JobPosting

/-- What a posting counts as found on, and provided by, when nothing better is known: the employer's own site. -/
def ownSite : Text := "corporate-site"

namespace HostName

def labels (host : Text) : List Text := Text.split '.' host

def firstLabel (host : Text) : Text := Text.before '.' host

/-- The host without one leading `www` label. -/
def withoutWww (host : Text) : Text := (Text.stripPrefix? "www." host).getD host

/-- Whether a host is a domain or lies below it. -/
def isWithin (domain host : Text) : Bool :=
  match Text.stripSuffix? domain host with
  | some rest => rest.isEmpty || rest.getLast? = some '.'
  | none => false

theorem isWithin_iff {domain host : Text} :
    isWithin domain host = true ↔ host = domain ∨ ∃ p, host = p ++ '.' :: domain := by
  unfold isWithin
  split
  · rename_i rest h
    obtain rfl := Text.stripSuffix?_eq_some_iff.1 h
    simp only [Bool.or_eq_true, List.isEmpty_iff, decide_eq_true_eq]
    constructor
    · rintro (rfl | h)
      · exact .inl rfl
      · obtain ⟨p, rfl⟩ := List.getLast?_eq_some_iff.1 h
        exact .inr ⟨p, by simp⟩
    · rintro (h | ⟨p, h⟩)
      · exact .inl (by simpa using h)
      · have h : rest ++ domain = (p ++ ['.']) ++ domain := by simpa using h
        exact .inr (by simp [List.append_cancel_right h])
  · rename_i h
    constructor
    · simp
    · rintro (rfl | ⟨p, rfl⟩)
      · simp [Text.stripSuffix?_eq_some_iff.2 (show host = [] ++ host by simp)] at h
      · simp [Text.stripSuffix?_eq_some_iff.2 (show p ++ '.' :: domain = (p ++ ['.']) ++ domain by simp)] at h

theorem labels_append (p domain : Text) : labels (p ++ '.' :: domain) = labels p ++ labels domain :=
  Text.split_append '.' p domain

/-- A host lies within a domain exactly if its last labels are those of the domain. -/
theorem isWithin_iff_labels {domain host : Text} :
    isWithin domain host = true ↔ labels domain <:+ labels host := by
  rw [isWithin_iff]
  constructor
  · rintro (rfl | ⟨p, rfl⟩)
    · exact List.suffix_refl _
    · rw [labels_append]
      exact List.suffix_append _ _
  · rintro ⟨ls, h⟩
    by_cases hl : ls = []
    · subst hl
      exact .inl (Text.split_inj h.symm)
    · refine .inr ⟨Text.join ['.'] ls, ?_⟩
      calc host = Text.join ['.'] (labels host) := (Text.join_split '.' host).symm
        _ = Text.join ['.'] (ls ++ labels domain) := by rw [h]
        _ = Text.join ['.'] ls ++ '.' :: Text.join ['.'] (labels domain) :=
          Text.join_append '.' hl (Text.split_ne_nil '.' domain)
        _ = Text.join ['.'] ls ++ '.' :: domain := by rw [show labels domain = Text.split '.' domain from rfl,
          Text.join_split]

/-- Of two domains that a host lies within, one lies within the other. -/
theorem isWithin_or_isWithin {d e host : Text} (hd : isWithin d host = true) (he : isWithin e host = true) :
    isWithin d e = true ∨ isWithin e d = true := by
  rw [isWithin_iff_labels] at hd he ⊢
  rw [isWithin_iff_labels]
  exact List.suffix_or_suffix_of_suffix hd he

/-- How many labels the public suffix has. -/
def suffixLength (labels : List Text) : Nat :=
  match labels.reverse with
  | top :: second :: _ => if isDoubleSuffix second top then 2 else 1
  | _ => 1

def beforeSuffix (labels : List Text) : List Text := labels.take (labels.length - suffixLength labels)

/-- The label that names the company: the one nearest to the public suffix that is not just a word about jobs, else
the one before the suffix, else the first one, else the host as it stands. -/
def company (host : Text) : Text :=
  let before := (beforeSuffix (labels host)).reverse
  match before.find? (fun label => label ≠ [] && !isJobLabel label) with
  | some label => label
  | none =>
    match before with
    | (c :: label) :: _ => c :: label
    | _ => (Text.nonEmpty? (firstLabel host)).getD host

theorem company_nil : company [] = [] := by decide

/-- Only the empty host names no company. -/
theorem company_ne_nil {host : Text} (h : host ≠ []) : company host ≠ [] := by
  unfold company
  dsimp only
  split
  · rename_i label hl
    have hp := List.find?_some hl
    simp only [Bool.and_eq_true, decide_eq_true_eq] at hp
    exact hp.1
  · split
    · exact List.cons_ne_nil _ _
    · cases hf : Text.nonEmpty? (firstLabel host) with
      | none => exact h
      | some label => exact Text.ne_nil_of_nonEmpty? hf

/-- The label that names the provider of an unknown site: the first one, or the second if the first is just a word
about jobs and the second stands before the public suffix. -/
def provider (host : Text) : Text :=
  if host = [] then ownSite
  else match labels host with
    | [] => []
    | [label] => label
    | first :: rest =>
      let candidate :=
        match beforeSuffix (first :: rest) with
        | a :: b :: _ => if isJobLabel a then b else a
        | [a] => a
        | [] => first
      if candidate = [] then first else candidate

end HostName

end JobPosting

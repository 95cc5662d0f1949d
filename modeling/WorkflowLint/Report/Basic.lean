import WorkflowLint.Lookup

/-!
# Findings and reports

A finding belongs to a bucket. `Findings` collects findings by bucket, the buckets in the order of
their presentation; a report has the findings of each bucket in the order of their pushes
(`Sections`) and a count for each severity. `inBucket_insert` says what a push changes, so the order
of pushes into different buckets does not show.
-/

set_option autoImplicit false

namespace WorkflowLint

inductive Severity where
  | success
  | info
  | warning
  | error
  deriving DecidableEq, Inhabited

namespace Severity

def all : List Severity := [.success, .info, .warning, .error]

def name : Severity → String
  | .success => "success"
  | .info => "info"
  | .warning => "warning"
  | .error => "error"

end Severity

/-- The facet of a workflow that a finding is about, in the order of presentation. -/
inductive Bucket where
  | properties
  | variables
  | triggers
  | targets
  | activities
  | atomics
  | statistics
  deriving DecidableEq, Inhabited

namespace Bucket

def all : List Bucket :=
  [.properties, .variables, .triggers, .targets, .activities, .atomics, .statistics]

/-- The place in the order of presentation. -/
def rank : Bucket → Nat
  | .properties => 0
  | .variables => 1
  | .triggers => 2
  | .targets => 3
  | .activities => 4
  | .atomics => 5
  | .statistics => 6

/-- The key in the JSON form of a report. -/
def key : Bucket → String
  | .properties => "properties"
  | .variables => "variables"
  | .triggers => "triggers"
  | .targets => "targets"
  | .activities => "activities"
  | .atomics => "atomics"
  | .statistics => "fun"

/-- The heading over the bucket's findings. -/
def title : Bucket → String
  | .properties => "Workflow Properties"
  | .variables => "Variables"
  | .triggers => "Triggers"
  | .targets => "Targets"
  | .activities => "Activities"
  | .atomics => "Atomic Actions"
  | .statistics => "Statistics"

theorem rank_injective {a b : Bucket} (h : a.rank = b.rank) : a = b := by
  cases a <;> cases b <;> first | rfl | simp [rank] at h

end Bucket

/-- One result of a rule. -/
structure Finding where
  /-- The code of the rule. -/
  code : String
  severity : Severity
  title : String
  description : String
  moreInfo : Option String
  deriving DecidableEq, Inhabited

namespace Finding

/-- A finding without detail. -/
def plain (severity : Severity) (code title description : String) : Finding :=
  ⟨code, severity, title, description, none⟩

def success (code title description : String) : Finding := plain .success code title description

def info (code title description : String) : Finding := plain .info code title description

def warning (code title description : String) : Finding := plain .warning code title description

def error (code title description : String) : Finding := plain .error code title description

/-- The finding with a detail; an empty text is no detail. -/
def withMoreInfo (f : Finding) (text : String) : Finding :=
  { f with moreInfo := if text.isEmpty then none else some text }

theorem withMoreInfo_of_ne_empty (f : Finding) {text : String} (h : text ≠ "") :
    f.withMoreInfo text = { f with moreInfo := some text } := by
  rw [withMoreInfo, if_neg (mt String.isEmpty_iff.1 h)]

theorem append_ne_empty {front : String} (h : front ≠ "") (behind : String) :
    front ++ behind ≠ "" :=
  fun empty => h (String.append_eq_empty_iff.1 empty).1

end Finding

/-- The findings of some buckets, in the order of presentation and each bucket once. -/
abbrev Sections := List (Bucket × List Finding)

namespace Sections

/-- The findings of a bucket. -/
def inBucket (sections : Sections) (bucket : Bucket) : List Finding :=
  (sections.lookup bucket).getD []

/-- All findings with their buckets, section by section. -/
def toList (sections : Sections) : List (Bucket × Finding) :=
  sections.flatMap fun s => s.2.map fun f => (s.1, f)

/-- Sections in the order of presentation, no bucket twice. -/
def Ordered (sections : Sections) : Prop := sections.Pairwise fun a b => a.1.rank < b.1.rank

end Sections

/-- The findings pushed so far, the last of each bucket in front. -/
structure Findings where
  pushed : Sections
  deriving DecidableEq

namespace Findings

def empty : Findings := ⟨[]⟩

instance : Inhabited Findings := ⟨empty⟩

/-- Puts a finding in front of its bucket's section, which is made where it belongs. -/
def insert (bucket : Bucket) (finding : Finding) : Sections → Sections
  | [] => [(bucket, [finding])]
  | (b, fs) :: rest =>
    if b = bucket then (b, finding :: fs) :: rest
    else if bucket.rank < b.rank then (bucket, [finding]) :: (b, fs) :: rest
    else (b, fs) :: insert bucket finding rest

def push (fs : Findings) (bucket : Bucket) (finding : Finding) : Findings :=
  ⟨insert bucket finding fs.pushed⟩

/-- Pushes the findings one after the other. -/
def pushAll (fs : Findings) (pushes : List (Bucket × Finding)) : Findings :=
  pushes.foldl (fun fs p => fs.push p.1 p.2) fs

/-- The findings of each bucket in the order of their pushes. -/
def sections (fs : Findings) : Sections := fs.pushed.map fun s => (s.1, s.2.reverse)

theorem pushAll_append (fs : Findings) (a b : List (Bucket × Finding)) :
    fs.pushAll (a ++ b) = (fs.pushAll a).pushAll b := by
  simp [pushAll, List.foldl_append]

theorem mem_fst_insert {bucket : Bucket} {finding : Finding} {sections : Sections}
    {s : Bucket × List Finding} (h : s ∈ insert bucket finding sections) :
    s.1 = bucket ∨ ∃ t ∈ sections, t.1 = s.1 := by
  induction sections with
  | nil => simp [insert] at h; simp [h]
  | cons t rest ih =>
    obtain ⟨b, fs⟩ := t
    rw [insert] at h
    split at h
    · simp only [List.mem_cons] at h; grind
    · split at h <;> simp only [List.mem_cons] at h <;> grind

theorem ordered_insert {bucket : Bucket} {finding : Finding} {sections : Sections}
    (h : sections.Ordered) : (insert bucket finding sections).Ordered := by
  induction sections with
  | nil => simp [insert, Sections.Ordered]
  | cons t rest ih =>
    obtain ⟨b, fs⟩ := t
    obtain ⟨hb, hrest⟩ := List.pairwise_cons.1 h
    rw [insert]
    split
    · exact List.pairwise_cons.2 ⟨hb, hrest⟩
    · next hne =>
      split
      · next hlt =>
        refine List.pairwise_cons.2 ⟨fun s hs => ?_, h⟩
        rcases List.mem_cons.1 hs with rfl | hs
        · exact hlt
        · exact Nat.lt_trans hlt (hb s hs)
      · next hge =>
        refine List.pairwise_cons.2 ⟨fun s hs => ?_, ih hrest⟩
        rcases mem_fst_insert hs with he | ⟨t, ht, he⟩
        · have : b.rank ≠ bucket.rank := fun e => hne (Bucket.rank_injective e)
          simp only [he]; omega
        · simpa [he] using hb t ht

/-- A push puts its finding in front of its own bucket and leaves every other bucket alone. -/
theorem inBucket_insert {sections : Sections} (h : sections.Ordered) (bucket : Bucket)
    (finding : Finding) (b : Bucket) :
    (insert bucket finding sections).inBucket b =
      if b = bucket then finding :: sections.inBucket b else sections.inBucket b := by
  unfold Sections.inBucket
  induction sections with
  | nil => by_cases hb : b = bucket <;> simp [insert, lookup_cons_ite, hb]
  | cons t rest ih =>
    obtain ⟨c, fs⟩ := t
    obtain ⟨hc, hrest⟩ := List.pairwise_cons.1 h
    rw [insert]
    split
    · next hcb =>
      subst hcb
      by_cases hb : b = c <;> simp [lookup_cons_ite, hb]
    · next hne =>
      split
      · next hlt =>
        by_cases hb : b = bucket
        · subst hb
          have hbc : ¬b = c := fun e => hne e.symm
          have hnone : rest.lookup b = none := by
            refine List.lookup_eq_none_iff.2 fun p hp => ?_
            have hp : c.rank < p.1.rank := hc p hp
            have hpb : b ≠ p.1 := fun e => by rw [← e] at hp; omega
            simpa using hpb
          simp [lookup_cons_ite, hbc, hnone]
        · simp [lookup_cons_ite, hb]
      · by_cases hb : b = c
        · subst hb; simp [hne]
        · simp [lookup_cons_ite, hb, ih hrest]

end Findings

/-- How many findings there are of each severity. -/
structure Summary where
  success : Nat
  info : Nat
  warning : Nat
  error : Nat
  deriving DecidableEq, Inhabited

namespace Summary

def zero : Summary := ⟨0, 0, 0, 0⟩

/-- One finding more of the severity. -/
def count (s : Summary) : Severity → Summary
  | .success => { s with success := s.success + 1 }
  | .info => { s with info := s.info + 1 }
  | .warning => { s with warning := s.warning + 1 }
  | .error => { s with error := s.error + 1 }

/-- Counts the findings of every section. -/
def tally (sections : Sections) : Summary :=
  sections.toList.foldl (fun s p => s.count p.2.severity) zero

def get (s : Summary) : Severity → Nat
  | .success => s.success
  | .info => s.info
  | .warning => s.warning
  | .error => s.error

def total (s : Summary) : Nat := s.success + s.info + s.warning + s.error

end Summary

/-- The result of an analysis. -/
structure Report where
  sections : Sections
  summary : Summary
  deriving DecidableEq

namespace Report

def ofFindings (fs : Findings) : Report := ⟨fs.sections, Summary.tally fs.sections⟩

/-- The report of the findings pushed in this order. -/
def ofPushes (pushes : List (Bucket × Finding)) : Report :=
  ofFindings (Findings.empty.pushAll pushes)

instance : Inhabited Report := ⟨ofPushes []⟩

/-- The findings of a bucket. -/
def inBucket (r : Report) (bucket : Bucket) : List Finding := r.sections.inBucket bucket

/-- All findings with their buckets, section by section. -/
def toList (r : Report) : List (Bucket × Finding) := r.sections.toList

def hasErrors (r : Report) : Bool := decide (0 < r.summary.error)

end Report

end WorkflowLint

import WarmStorage.Identifier

/-!
What accounts and approvals are kept under. Keys are ordered by their parts, one after the other.
-/

namespace WarmStorage

structure AccountKey where
  token : Address
  owner : Address
deriving DecidableEq, Repr

namespace AccountKey

instance : Ord AccountKey where
  compare := compareLex (compareOn (·.token)) (compareOn (·.owner))

instance : Std.TransOrd AccountKey :=
  inferInstanceAs (Std.TransCmp (compareLex (compareOn AccountKey.token)
    (compareOn AccountKey.owner)))

instance : Std.LawfulEqOrd AccountKey where
  eq_of_compare {a b} h := by
    have h := compareLex_eq_eq.1 h
    have token : a.token = b.token := Std.LawfulEqOrd.eq_of_compare h.1
    have owner : a.owner = b.owner := Std.LawfulEqOrd.eq_of_compare h.2
    cases a
    cases b
    exact congr (congrArg AccountKey.mk token) owner

end AccountKey

structure ApprovalKey where
  token : Address
  client : Address
  operator : Address
deriving DecidableEq, Repr

namespace ApprovalKey

instance : Ord ApprovalKey where
  compare := compareLex (compareOn (·.token))
    (compareLex (compareOn (·.client)) (compareOn (·.operator)))

instance : Std.TransOrd ApprovalKey :=
  inferInstanceAs (Std.TransCmp (compareLex (compareOn ApprovalKey.token)
    (compareLex (compareOn ApprovalKey.client) (compareOn ApprovalKey.operator))))

instance : Std.LawfulEqOrd ApprovalKey where
  eq_of_compare {a b} h := by
    have h := compareLex_eq_eq.1 h
    have rest := compareLex_eq_eq.1 h.2
    have token : a.token = b.token := Std.LawfulEqOrd.eq_of_compare h.1
    have client : a.client = b.client := Std.LawfulEqOrd.eq_of_compare rest.1
    have operator : a.operator = b.operator := Std.LawfulEqOrd.eq_of_compare rest.2
    cases a
    cases b
    exact congr (congr (congrArg ApprovalKey.mk token) client) operator

end ApprovalKey

end WarmStorage

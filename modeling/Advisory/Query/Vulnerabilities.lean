import Advisory.Query.Updates

/-!
# Vulnerabilities of installed packages

A system is vulnerable to what the security updates of its packages would fix. The answer names each
vulnerability once, in order.
-/

namespace Advisory

structure VulnerabilitiesAnswer where
  cves : List String
deriving DecidableEq, Repr

/-- The names of the vulnerabilities that the erratum with a name fixes. -/
def Catalog.fixedBy (c : Catalog) (erratum : String) : List String :=
  (c.errata[erratum]?.map c.cveNamesOf).getD []

/-- All updates of an answer. -/
def UpdatesAnswer.updates (a : UpdatesAnswer) : List Update :=
  a.entries.toList.flatMap fun (_, e) => e.available.getD []

/-- The options under which vulnerabilities are looked for. -/
def securityUpdates : UpdateOptions := ⟨false, true⟩

/-- Answers a request for the vulnerabilities of installed packages. -/
def UpdatesRequest.vulnerabilities (r : UpdatesRequest) (c : Catalog) : VulnerabilitiesAnswer where
  cves := ascending ((r.resolve c securityUpdates).updates.flatMap fun u => c.fixedBy u.erratum)

def VulnerabilitiesAnswer.toJson (a : VulnerabilitiesAnswer) : Json :=
  .object [("cve_list", .ofTexts a.cves)]

end Advisory

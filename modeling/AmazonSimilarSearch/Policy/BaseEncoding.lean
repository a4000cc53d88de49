import AmazonSimilarSearch.Policy.OneFile

/-!
# The encoding of base content

Only the candidate content of a changed file has to be text. A repository whose
file is Latin-1 in the base and UTF-8 in the candidate gets a passing report.
-/
namespace AmazonSimilarSearch.Policy
open Foundation Review

end AmazonSimilarSearch.Policy

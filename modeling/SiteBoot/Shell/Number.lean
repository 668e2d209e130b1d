/-!
The numbers of the shell, which are integers of 64 bits.
-/

namespace SiteBoot.Shell

/-- How many numbers there are from zero on that are not negative. -/
def halfWord : Int := Int.pow 2 63

def wholeWord : Int := Int.pow 2 64

def wrap (n : Int) : Int := (n + halfWord) % wholeWord - halfWord

def saturate (n : Int) : Int := max (-halfWord) (min (halfWord - 1) n)

/-- Whether an integer is a number of the shell. -/
def isInWord (n : Int) : Bool := -halfWord ≤ n && n < halfWord

end SiteBoot.Shell
